import MessageSync.Proofs.Engine.Connections
import MessageSync.Proofs.Engine.Outbox
import MessageSync.Proofs.Record.Hashes

/-!
# The local ids of a run

A local id is given out where a message is written and nowhere else, with the count of those before
it as its counter. Along a run no counter is used twice, so that no two local ids are made from the
same bytes.
-/

namespace MessageSync

namespace Engine

variable {σ τ : Type} {engine : Engine σ τ}

/-! ## What gives out no local id -/

/-- No local id was given out. -/
def NamesNone (before after : Engine σ τ) : Prop :=
  after.localIds = before.localIds

section Steps

variable [Transport τ]

instance : Mild (NamesNone : Engine σ τ → Engine σ τ → Prop) where
  refl _ := rfl
  trans _ _ _ first second := Eq.trans second first
  outward _ _ outward := by rw [NamesNone, outward.same]
  dispatches := dispatches_of_sends fun _ _ sends => by rw [NamesNone, sends.same]
  tame _ _ _ := rfl

theorem namesNone_perform (effect : ConnectionEffect) :
    Always NamesNone (perform effect : EngineM σ τ Unit) := by
  cases effect with
  | openTransport => exact .pure ()
  | closeTransport | scheduleRetry | cancelRetry => exact fun _ => rfl
  | handshake => exact always_sendHandshake
  | resubscribe => exact .bind .get fun _ => .forM fun _ _ => always_sendSubscribe _
  | abandonPending =>
      intro engine
      rw [NamesNone, same_abandonPending]
  | syncAll =>
      exact .bind always_now fun _ =>
        always_onCoordinator fun _ => SyncCoordinator.hushed_triggerAll

instance : Connecting (NamesNone : Engine σ τ → Engine σ τ → Prop) where
  setLastError _ := .outward (outward_setLastError _)
  transport _ _ := rfl
  opening _ _ := rfl
  handles _ _ := related_handle rfl fun effect _ => namesNone_perform effect

variable [MessageLog σ]

theorem namesNone_finishTimer (firedAt : Instant) :
    Always NamesNone (finishTimer firedAt : EngineM σ τ Unit) :=
  always_finishTimer (always_onRegistry fun _ => rfl) fun _ _ => always_runSync (fun _ _ _ => rfl) _

theorem namesNone_take {input : Input}
    (other : ∀ conversationId contents waiter,
      input ≠ .command (.sendMessage conversationId contents waiter)) :
    Always NamesNone (take input : EngineM σ τ Unit) := by
  refine always_take_of_handlers namesNone_finishTimer (fun _ => rfl) ?_ ?_
  · rintro command rfl
    refine always_handleCommand_of (fun _ _ => always_apply _) (fun _ _ _ _ _ _ => rfl)
      (fun _ _ _ _ => rfl) (fun _ => always_release fun _ => rfl) ?_ ?_
    · rintro conversationId contents waiter rfl
      exact absurd rfl (other _ _ _)
    · rintro conversationId waiter rfl
      exact always_syncNow _ _
  · intro content _
    exact always_takeFrame (fun _ _ _ => rfl) (fun _ _ => rfl) (fun _ _ _ => rfl) _

/-! ## What gives one out -/

/-- A message that belongs to a conversation gets the local id of its record, whatever becomes of
it then. -/
theorem localIds_sendMessage {conversationId contents : String} (named : conversationId ≠ "") :
    ((sendMessage conversationId contents).run engine).2.localIds =
      engine.localIds ++ [(engine.minted conversationId contents).id] := by
  have kept : NamesNone ((mint conversationId contents).run engine).2
      ((sendMessage conversationId contents).run engine).2 :=
    related_sendMessage named fun _ _ => rfl
  exact kept

end Steps

/-! ## Runs -/

/-- What the local id is made from that a step gives out. -/
def Taken.seed? (taken : Taken σ τ) : Option LocalId.Seed :=
  match taken.input with
  | .command (.sendMessage conversationId contents _) =>
    if conversationId = "" then none
    else some ⟨conversationId, contents, taken.found.clock.calendar, taken.found.localIds.length⟩
  | _ => none

/-- What the local ids are made from that a run gives out, in order. -/
def seeds (past : List (Taken σ τ)) : List LocalId.Seed :=
  past.filterMap Taken.seed?

/-- The local ids given out are those of the run, and their counters are the numbers from zero on. -/
structure Names (engine : Engine σ τ) (past : List (Taken σ τ)) : Prop where
  ids : engine.localIds = (seeds past).map LocalId.Seed.id
  counters : (seeds past).map LocalId.Seed.counter = List.range (seeds past).length

theorem Taken.counter_of_seed? {taken : Taken σ τ} {seed : LocalId.Seed}
    (made : taken.seed? = some seed) : seed.counter = taken.found.localIds.length := by
  simp only [Taken.seed?] at made
  split at made
  · split at made
    · cases made
    · cases made
      rfl
  · cases made

theorem seeds_append_singleton (past : List (Taken σ τ)) (last : Taken σ τ) :
    seeds (past ++ [last]) = seeds past ++ last.seed?.toList := by
  rw [seeds, List.filterMap_append]
  cases made : last.seed? <;> simp [seeds, made]

/-- In 64 bits the counters are the same numbers, as long as there are no more inputs than that. -/
theorem Names.toNat_counter {past : List (Taken σ τ)} (names : engine.Names past)
    (few : past.length ≤ 2 ^ 64) {seed : LocalId.Seed} (made : seed ∈ seeds past) :
    (UInt64.ofNat seed.counter).toNat = seed.counter := by
  have counted : seed.counter ∈ List.range (seeds past).length := by
    rw [← names.counters]
    exact List.mem_map_of_mem made
  have within : (seeds past).length ≤ past.length := List.length_filterMap_le _ _
  have bounded := (List.mem_range.mp counted).trans_le (within.trans few)
  rw [UInt64.toNat_ofNat', Nat.mod_eq_of_lt bounded]

theorem Names.pairwise_apart {past : List (Taken σ τ)} (names : engine.Names past) :
    (seeds past).Pairwise LocalId.Seed.Apart := by
  have counted : ((seeds past).map LocalId.Seed.counter).Pairwise (· ≠ ·) := by
    rw [names.counters]
    exact List.nodup_range
  exact (List.pairwise_map.mp counted).imp LocalId.Seed.apart_of_counter

section Runs

variable [MessageLog σ] [Transport τ]

theorem localIds_left (taken : Taken σ τ) :
    taken.left.localIds = taken.found.localIds ++ taken.seed?.toList.map LocalId.Seed.id := by
  have noticed : NamesNone ((take taken.input).run taken.found).2 taken.left :=
    related_step_of_take always_noticeBrokenLink taken.input taken.found
  refine Eq.trans noticed ?_
  rcases taken with ⟨found, input⟩
  by_cases writes : ∃ conversationId contents waiter,
      input = .command (.sendMessage conversationId contents waiter)
  · rcases writes with ⟨conversationId, contents, waiter, rfl⟩
    change ((sendMessage conversationId contents).run found).2.localIds = _
    by_cases named : conversationId = ""
    · simp only [Taken.seed?, sendMessage, named, reduceIte]
      exact (List.append_nil _).symm
    · simp only [Taken.seed?, named, reduceIte]
      exact localIds_sendMessage named
  · have other : ∀ conversationId contents waiter,
        input ≠ .command (.sendMessage conversationId contents waiter) :=
      fun _ _ _ same => writes ⟨_, _, _, same⟩
    have unmade : Taken.seed? ⟨found, input⟩ = none := by simp only [Taken.seed?]
    rw [unmade]
    exact (namesNone_take other found).trans (List.append_nil _).symm

theorem Names.next {found : Engine σ τ} {past : List (Taken σ τ)} (names : engine.Names past)
    (same : found.localIds = engine.localIds) (input : Input) :
    Names ((step input).run found).2 (past ++ [⟨found, input⟩]) := by
  refine ⟨?_, ?_⟩
  · rw [seeds_append_singleton, List.map_append, ← names.ids, ← same]
    exact localIds_left ⟨found, input⟩
  · rw [seeds_append_singleton, List.map_append, names.counters]
    cases made : Taken.seed? ⟨found, input⟩ with
    | none => simp
    | some seed =>
        have counter : seed.counter = (seeds past).length := by
          rw [Taken.counter_of_seed? made, same, names.ids, List.length_map]
        simp [counter, List.range_succ]

variable {settings : Settings} {transport : τ} {log : σ} {clock : Clock} {first : Engine σ τ}
  {past : List (Taken σ τ)}

theorem names_of_took (started : start settings transport log clock = .ok first)
    (took : Took Arrives first engine past) : engine.Names past := by
  induction took with
  | initial =>
      rcases eq_of_start started with ⟨window, rfl⟩
      exact ⟨rfl, rfl⟩
  | next took arrival names =>
      refine names.next ?_ _
      rw [arrival.drifts]

/-- Local ids with different counters, the local ids of a run, and fingerprints of different
messages are made from different bytes, so that they are the same only where the hash of these is. -/
theorem hashes_tell_apart :
    (∀ first second : LocalId.Seed, first.counter ≠ second.counter → first.Apart second) ∧
    (∀ (settings : Settings) (transport : τ) (log : σ) (clock : Clock) (first engine : Engine σ τ)
        (past : List (Taken σ τ)), start settings transport log clock = .ok first →
      Took Arrives first engine past →
        engine.Names past ∧ (seeds past).Pairwise LocalId.Seed.Apart) ∧
    ∀ (role role' : Role) (contents contents' : String),
      (Fingerprint.hashedBytes role contents = Fingerprint.hashedBytes role' contents' ↔
        role = role' ∧ contents = contents') ∧
      (Fingerprint.of role contents = Fingerprint.of role' contents' ↔
        (role = role' ∧ contents = contents') ∨
          Sha256.Collide Sha256.hash (Fingerprint.hashedBytes role contents)
            (Fingerprint.hashedBytes role' contents')) := by
  refine ⟨fun first second differ => LocalId.Seed.apart_of_counter differ, ?_, ?_⟩
  · intro settings transport log clock first engine past started took
    have names : engine.Names past := names_of_took started took
    exact ⟨names, names.pairwise_apart⟩
  · intro role role' contents contents'
    exact ⟨Fingerprint.hashedBytes_inj, Fingerprint.of_eq_iff⟩

end Runs

/-- Somebody writes a message in a conversation whose name contains a mark. -/
def sameWrite : Input := .command (.sendMessage "a|b" "c" 1)

/-- The same message is written twice at the same time. -/
def twice (first : Engine Store ScriptedTransport) : List (Taken Store ScriptedTransport) :=
  [⟨first, sameWrite⟩, ⟨((step sameWrite).run first).2, sameWrite⟩]

/-- The two local ids are different, because the digests of what they are made from differ in their
first sixty-four bits. -/
theorem hashes_tell_apart_twice : ∃ first engine, unconnected = .ok first ∧
    Took Arrives first engine (twice first) ∧ engine.localIds.Nodup ∧
    seeds (twice first) = [⟨"a|b", "c", default, 0⟩, ⟨"a|b", "c", default, 1⟩] ∧
    ¬Sha256.Collide Sha256.truncated (LocalId.Seed.hashedBytes ⟨"a|b", "c", default, 0⟩)
      (LocalId.Seed.hashedBytes ⟨"a|b", "c", default, 1⟩) := by
  have left : unconnected.toOption.map (fun first =>
      (((step sameWrite).run first).2.opening.isNone, seeds (twice first))) =
        some (true, [⟨"a|b", "c", default, 0⟩, ⟨"a|b", "c", default, 1⟩]) := by decide +kernel
  rcases exists_of_toOption_map left with ⟨first, started, same⟩
  simp only [Prod.mk.injEq] at same
  rcases same with ⟨opening, made⟩
  have fresh := fresh_of_start started
  have once : Arrives first sameWrite first := ⟨rfl, by simp [fresh.opening, sameWrite]⟩
  have again : Arrives ((step sameWrite).run first).2 sameWrite ((step sameWrite).run first).2 := by
    refine ⟨rfl, ?_⟩
    rw [Option.isNone_iff_eq_none.mp opening]
    simp [sameWrite]
  have took : Took Arrives first _ (twice first) := .next (.next .initial once) again
  have differ : LocalId.Seed.id ⟨"a|b", "c", default, 0⟩ ≠
      LocalId.Seed.id ⟨"a|b", "c", default, 1⟩ := by decide +kernel
  rcases hashes_tell_apart.2.1 _ _ _ _ _ _ _ started took with ⟨names, apart⟩
  rw [made] at apart
  refine ⟨first, _, started, took, ?_, made, ?_⟩
  · rw [names.ids, made]
    simpa using differ
  · rw [← (List.pairwise_pair.mp apart).named]
    exact differ

end Engine

end MessageSync
