import Mathlib.Data.List.Pairwise
import MessageSync.Proofs.Store.Row
import MessageSync.Store.Basic

/-!
# What the operations of a store do

One statement for each operation says exactly when it succeeds and what the rows are afterwards.
Callers use these and never look into an operation. Unique keys are kept by all of them: a row is
only written after a look at every row that it might clash with.
-/

namespace MessageSync

namespace Store

variable {store after : Store}

/-! ## Looking up -/

theorem find?_eq_some {test : Row → Bool} {message : Message} :
    store.find? test = .ok (some message) ↔
      ∃ row, store.rows.find? test = some row ∧ row.Holds message := by
  simp only [find?]
  split
  · next row found =>
      simp only [found, Option.some.injEq, exists_eq_left', ← Row.toMessage_eq_ok]
      cases row.toMessage <;> simp [Except.map]
  · next missing => simp [missing]

theorem find?_eq_none {test : Row → Bool} :
    store.find? test = .ok none ↔ ∀ row ∈ store.rows, test row = false := by
  simp only [find?]
  split
  · next row found =>
      have holds := List.find?_some found
      have mem := List.mem_of_find?_eq_some found
      constructor
      · intro read
        cases rowRead : row.toMessage <;> rw [rowRead] at read <;> cases read
      · intro refused
        simp [refused row mem] at holds
  · next missing => simpa using missing

/-- A look-up finds a row that passes the test. -/
theorem exists_row_of_find? {test : Row → Bool} {message : Message}
    (found : store.find? test = .ok (some message)) :
    ∃ row ∈ store.rows, test row = true ∧ row.Holds message := by
  rcases find?_eq_some.mp found with ⟨row, first, holds⟩
  exact ⟨row, List.mem_of_find?_eq_some first, List.find?_some first, holds⟩

/-- A look-up that only one row can pass finds that row. -/
theorem find?_of_unique {test : Row → Bool} {row : Row} {message : Message}
    (mem : row ∈ store.rows) (passes : test row = true) (holds : row.Holds message)
    (unique : ∀ other ∈ store.rows, test other = true → other = row) :
    store.find? test = .ok (some message) := by
  rw [find?_eq_some]
  cases first : store.rows.find? test with
  | none =>
      rw [List.find?_eq_none] at first
      exact absurd passes (first row mem)
  | some other =>
      have same := unique other (List.mem_of_find?_eq_some first) (List.find?_some first)
      exact ⟨row, by rw [same], holds⟩

theorem load_eq_ok {id : String} {message : Message} :
    store.load id = .ok message ↔ store.findById id = .ok (some message) := by
  simp only [load]
  rw [except_bind_eq_ok]
  constructor
  · rintro ⟨found, read, loaded⟩
    cases found with
    | none => cases loaded
    | some found =>
        cases loaded
        exact read
  · intro read
    exact ⟨_, read, rfl⟩

/-! ## Unique keys -/

instance : Std.Symm fun first second : Row => ¬first.Clashes second :=
  ⟨fun _ _ free clashes => free clashes.symm⟩

/-- Two rows of a store with unique keys that share a key are the same row. -/
theorem UniqueKeys.eq_of_clashes (unique : store.UniqueKeys) {first second : Row}
    (firstMem : first ∈ store.rows) (secondMem : second ∈ store.rows)
    (clashes : first.Clashes second) : first = second := by
  by_contra different
  exact List.Pairwise.forall unique firstMem secondMem different clashes

theorem UniqueKeys.eq_of_id (unique : store.UniqueKeys) {first second : Row}
    (firstMem : first ∈ store.rows) (secondMem : second ∈ store.rows)
    (same : first.id = second.id) : first = second :=
  unique.eq_of_clashes firstMem secondMem (Or.inl same)

theorem UniqueKeys.eq_of_serverId (unique : store.UniqueKeys) {first second : Row}
    {serverId : String} (firstMem : first ∈ store.rows) (secondMem : second ∈ store.rows)
    (firstServer : first.serverId = some serverId)
    (secondServer : second.serverId = some serverId) : first = second :=
  unique.eq_of_clashes firstMem secondMem
    (Or.inr (Or.inl ⟨by simp [firstServer], by rw [firstServer, secondServer]⟩))

theorem UniqueKeys.eq_of_localId (unique : store.UniqueKeys) {first second : Row}
    {conversationId localId : String} (firstMem : first ∈ store.rows)
    (secondMem : second ∈ store.rows) (firstConversation : first.conversationId = conversationId)
    (secondConversation : second.conversationId = conversationId)
    (firstLocal : first.localId = some localId) (secondLocal : second.localId = some localId) :
    first = second :=
  unique.eq_of_clashes firstMem secondMem
    (Or.inr (Or.inr ⟨by rw [firstConversation, secondConversation], by simp [firstLocal],
      by rw [firstLocal, secondLocal]⟩))

/-- No two rows have the same id. -/
def UniqueIds (store : Store) : Prop :=
  store.rows.Pairwise fun first second => first.id ≠ second.id

/-- The rows with an id. -/
def withId (store : Store) (id : String) : List Row :=
  store.rows.filter fun row => row.id = id

instance : Std.Symm fun first second : Row => first.id ≠ second.id :=
  ⟨fun _ _ different => different.symm⟩

theorem UniqueIds.eq_of_id (unique : store.UniqueIds) {first second : Row}
    (firstMem : first ∈ store.rows) (secondMem : second ∈ store.rows)
    (same : first.id = second.id) : first = second := by
  by_contra different
  exact List.Pairwise.forall unique firstMem secondMem different same

theorem UniqueIds.withId_eq (unique : store.UniqueIds) {row : Row} (mem : row ∈ store.rows) :
    store.withId row.id = [row] := by
  rcases List.append_of_mem mem with ⟨first, last, rows⟩
  rw [UniqueIds, rows, List.pairwise_append, List.pairwise_cons] at unique
  rcases unique with ⟨-, ⟨afterwards, -⟩, earlier⟩
  have noneEarlier : (first.filter fun other => other.id = row.id) = [] := by
    rw [List.filter_eq_nil_iff]
    intro other otherMem
    simpa using earlier other otherMem row List.mem_cons_self
  have noneAfterwards : (last.filter fun other => other.id = row.id) = [] := by
    rw [List.filter_eq_nil_iff]
    intro other otherMem
    simpa using (afterwards other otherMem).symm
  simp [withId, rows, noneEarlier, noneAfterwards]

theorem UniqueKeys.uniqueIds (unique : store.UniqueKeys) : store.UniqueIds :=
  List.Pairwise.imp (fun apart same => apart (Or.inl same)) unique

/-- Exactly one row has the id of a row. -/
theorem UniqueKeys.countP_id (unique : store.UniqueKeys) {row : Row} (mem : row ∈ store.rows) :
    store.rows.countP (fun other => other.id == row.id) = 1 := by
  have only := congrArg List.length (unique.uniqueIds.withId_eq mem)
  rwa [withId, ← List.countP_eq_length_filter] at only

theorem UniqueKeys.filter (unique : store.UniqueKeys) (test : Row → Bool) :
    UniqueKeys { store with rows := store.rows.filter test } :=
  List.Pairwise.filter test unique

theorem UniqueKeys.renamePrevious (unique : store.UniqueKeys) (oldId newId : String) :
    (store.renamePrevious oldId newId).UniqueKeys := by
  simp only [UniqueKeys, Store.renamePrevious, List.pairwise_map, Row.renamePrevious_clashes]
  exact unique

/-! ## Writing rows -/

theorem insert_eq_ok {message : Message} :
    store.insert message = .ok after ↔
      (∀ other ∈ store.rows, ¬(Row.ofMessage message).Clashes other) ∧
        after = { store with rows := store.rows ++ [Row.ofMessage message] } := by
  unfold insert
  simp only
  split
  · next taken =>
      simp only [reduceCtorEq, false_iff, not_and]
      intro free
      simp only [List.any_eq_true, decide_eq_true_eq] at taken
      rcases taken with ⟨other, mem, clashes⟩
      exact absurd clashes (free other mem)
  · next free =>
      simp only [List.any_eq_true, decide_eq_true_eq, not_exists, not_and] at free
      simp only [Except.ok.injEq]
      exact ⟨fun same => ⟨free, same.symm⟩, fun same => same.2.symm⟩

theorem UniqueKeys.insert (unique : store.UniqueKeys) {message : Message}
    (inserted : store.insert message = .ok after) : after.UniqueKeys := by
  rcases insert_eq_ok.mp inserted with ⟨free, rfl⟩
  simp only [UniqueKeys, List.pairwise_append]
  refine ⟨unique, by simp, ?_⟩
  intro other mem row rowMem clashes
  rw [List.mem_singleton] at rowMem
  subst row
  exact free other mem clashes.symm

/-- The row that a row with the given id is overwritten by; other rows stay. -/
def overwritten (id : String) (row : Row) (other : Row) : Row :=
  if other.id = id then row else other

theorem overwrite_eq_ok {id blamed : String} {message : Message} :
    store.overwrite id message blamed = .ok after ↔
      (∀ other ∈ store.rows, other.id ≠ id → ¬(Row.ofMessage message).Clashes other) ∧
        after = { store with rows := store.rows.map (overwritten id (Row.ofMessage message)) } := by
  unfold overwrite
  simp only
  split
  · next taken =>
      simp only [reduceCtorEq, false_iff, not_and]
      intro free
      simp only [List.any_eq_true, decide_eq_true_eq] at taken
      rcases taken with ⟨other, mem, different, clashes⟩
      exact absurd clashes (free other mem different)
  · next free =>
      simp only [List.any_eq_true, decide_eq_true_eq, not_exists, not_and] at free
      simp only [Except.ok.injEq]
      exact ⟨fun same => ⟨free, same.symm⟩, fun same => same.2.symm⟩

theorem UniqueKeys.overwrite (unique : store.UniqueKeys) {id blamed : String} {message : Message}
    (written : store.overwrite id message blamed = .ok after) : after.UniqueKeys := by
  rcases overwrite_eq_ok.mp written with ⟨free, rfl⟩
  simp only [UniqueKeys, List.pairwise_map]
  apply List.Pairwise.imp_of_mem _ unique
  intro first second firstMem secondMem apart
  simp only [overwritten]
  split
  · next firstHere =>
      split
      · next secondHere => exact absurd (Or.inl (firstHere.trans secondHere.symm)) apart
      · next elsewhere => exact free second secondMem elsewhere
  · next elsewhere =>
      split
      · exact fun clashes => free first firstMem elsewhere clashes.symm
      · exact apart

/-! ## Changing records -/

theorem update_eq_ok {id : String} {patch : MessagePatch} {result : Message} :
    store.update id patch = .ok (result, after) ↔
      ∃ message, store.load id = .ok message ∧ result = patch.apply message ∧
        store.overwrite id result id = .ok after := by
  simp only [update, except_bind_eq_ok, pure, Except.pure, Except.ok.injEq, Prod.mk.injEq]
  constructor
  · rintro ⟨message, loaded, written, overwrote, rfl, rfl⟩
    exact ⟨message, loaded, rfl, overwrote⟩
  · rintro ⟨message, loaded, rfl, overwrote⟩
    exact ⟨message, loaded, after, overwrote, rfl, rfl⟩

theorem replaceId_eq_ok {oldId newId : String} {patch : MessagePatch} {result : Message} :
    store.replaceId oldId newId patch = .ok (result, after) ↔
      ∃ message written, store.load oldId = .ok message ∧
        (newId ≠ oldId → ∀ row ∈ store.rows, row.id ≠ newId) ∧
        result = { patch.apply message with id := newId } ∧
        store.overwrite oldId result newId = .ok written ∧
        after = written.renamePrevious oldId newId := by
  simp only [replaceId, except_bind_eq_ok]
  constructor
  · rintro ⟨message, loaded, rest⟩
    split at rest
    · cases rest
    · next free =>
        simp only [pure, Except.pure, bind, Except.bind] at rest
        split at rest
        · cases rest
        · next written overwrote =>
            simp only [Except.ok.injEq, Prod.mk.injEq] at rest
            rcases rest with ⟨rfl, rfl⟩
            refine ⟨message, written, loaded, ?_, rfl, overwrote, rfl⟩
            intro different row mem taken
            apply free
            refine ⟨different, ?_⟩
            simp only [List.any_eq_true, beq_iff_eq]
            exact ⟨row, mem, taken⟩
  · rintro ⟨message, written, loaded, free, rfl, overwrote, rfl⟩
    refine ⟨message, loaded, ?_⟩
    rw [if_neg]
    · simp only [pure, Except.pure, bind, Except.bind, overwrote]
    · rintro ⟨different, taken⟩
      simp only [List.any_eq_true, beq_iff_eq] at taken
      rcases taken with ⟨row, mem, same⟩
      exact free different row mem same

/-- A record that absorbs another takes over its local id if it has none and both are in the same
conversation. -/
def TakesAlias (duplicate canonical : Message) : Prop :=
  canonical.localId.isNone ∧ duplicate.conversationId = canonical.conversationId

theorem absorb_eq_ok {duplicateId canonicalId : String} {result : Message} :
    store.absorb duplicateId canonicalId = .ok (result, after) ↔
      duplicateId ≠ canonicalId ∧ ∃ duplicate canonical kept,
        store.load duplicateId = .ok duplicate ∧ store.load canonicalId = .ok canonical ∧
        after = kept.renamePrevious duplicateId canonicalId ∧
        (TakesAlias duplicate canonical ∧ result = { canonical with localId := duplicate.localId } ∧
            overwrite { store with rows := store.rows.filter fun row => row.id ≠ duplicateId }
              canonicalId result canonicalId = .ok kept ∨
          ¬TakesAlias duplicate canonical ∧ result = canonical ∧
            kept = { store with rows := store.rows.filter fun row => row.id ≠ duplicateId }) := by
  simp only [absorb, TakesAlias]
  split
  · next same =>
      constructor
      · intro refused
        cases refused
      · rintro ⟨different, -⟩
        exact absurd same different
  · next different =>
      simp only [except_bind_eq_ok]
      constructor
      · rintro ⟨duplicate, duplicateLoaded, canonical, canonicalLoaded, rest⟩
        refine ⟨different, duplicate, canonical, ?_⟩
        split at rest
        · next takes =>
            simp only [except_bind_eq_ok] at rest
            rcases rest with ⟨kept, overwrote, done⟩
            cases done
            exact ⟨kept, duplicateLoaded, canonicalLoaded, rfl, Or.inl ⟨takes, rfl, overwrote⟩⟩
        · next refused =>
            cases rest
            exact ⟨_, duplicateLoaded, canonicalLoaded, rfl, Or.inr ⟨refused, rfl, rfl⟩⟩
      · rintro ⟨-, duplicate, canonical, kept, duplicateLoaded, canonicalLoaded, rfl, outcome⟩
        refine ⟨duplicate, duplicateLoaded, canonical, canonicalLoaded, ?_⟩
        rcases outcome with ⟨takes, rfl, overwrote⟩ | ⟨refused, rfl, rfl⟩
        · rw [if_pos takes, except_bind_eq_ok]
          exact ⟨kept, overwrote, rfl⟩
        · rw [if_neg refused]
          rfl

theorem UniqueKeys.update (unique : store.UniqueKeys) {id : String} {patch : MessagePatch}
    {result : Message} (updated : store.update id patch = .ok (result, after)) :
    after.UniqueKeys := by
  rcases update_eq_ok.mp updated with ⟨message, -, -, written⟩
  exact unique.overwrite written

theorem UniqueKeys.replaceId (unique : store.UniqueKeys) {oldId newId : String}
    {patch : MessagePatch} {result : Message}
    (replaced : store.replaceId oldId newId patch = .ok (result, after)) : after.UniqueKeys := by
  rcases replaceId_eq_ok.mp replaced with ⟨message, written, -, -, -, overwrote, rfl⟩
  exact (unique.overwrite overwrote).renamePrevious oldId newId

theorem UniqueKeys.absorb (unique : store.UniqueKeys) {duplicateId canonicalId : String}
    {result : Message} (absorbed : store.absorb duplicateId canonicalId = .ok (result, after)) :
    after.UniqueKeys := by
  rcases absorb_eq_ok.mp absorbed with ⟨-, duplicate, canonical, kept, -, -, rfl, outcome⟩
  apply UniqueKeys.renamePrevious
  have removed := unique.filter fun row => row.id ≠ duplicateId
  rcases outcome with ⟨-, -, overwrote⟩ | ⟨-, -, rfl⟩
  · exact removed.overwrite overwrote
  · exact removed

/-! ## The rows afterwards -/

theorem exists_row_of_load {id : String} {message : Message}
    (loaded : store.load id = .ok message) :
    ∃ row ∈ store.rows, row.id = id ∧ row.Holds message := by
  rcases exists_row_of_find? (load_eq_ok.mp loaded) with ⟨row, mem, same, holds⟩
  exact ⟨row, mem, by simpa using same, holds⟩

theorem mem_overwrite {id blamed : String} {message : Message}
    (written : store.overwrite id message blamed = .ok after)
    (present : ∃ other ∈ store.rows, other.id = id) {row : Row} :
    row ∈ after.rows ↔ row = Row.ofMessage message ∨ row ∈ store.rows ∧ row.id ≠ id := by
  rcases overwrite_eq_ok.mp written with ⟨-, rfl⟩
  simp only [List.mem_map, overwritten]
  constructor
  · rintro ⟨other, mem, rfl⟩
    split
    · exact Or.inl rfl
    · next elsewhere => exact Or.inr ⟨mem, elsewhere⟩
  · rintro (rfl | ⟨mem, elsewhere⟩)
    · rcases present with ⟨other, mem, same⟩
      exact ⟨other, mem, if_pos same⟩
    · exact ⟨row, mem, if_neg elsewhere⟩

theorem mem_update {id : String} {patch : MessagePatch} {result : Message}
    (updated : store.update id patch = .ok (result, after)) {row : Row} :
    row ∈ after.rows ↔ row = Row.ofMessage result ∨ row ∈ store.rows ∧ row.id ≠ id := by
  rcases update_eq_ok.mp updated with ⟨message, loaded, -, written⟩
  rcases exists_row_of_load loaded with ⟨other, mem, same, -⟩
  exact mem_overwrite written ⟨other, mem, same⟩

theorem mem_renamePrevious {oldId newId : String} {row : Row} :
    row ∈ (store.renamePrevious oldId newId).rows ↔
      ∃ source ∈ store.rows, source.renamePrevious oldId newId = row :=
  List.mem_map

/-- The record of a row is loaded by its id. -/
theorem load_of_holds (unique : store.UniqueKeys) {row : Row} {message : Message}
    (mem : row ∈ store.rows) (holds : row.Holds message) : store.load message.id = .ok message := by
  rw [load_eq_ok, findById]
  apply find?_of_unique mem (by simp [holds.id]) holds
  intro other otherMem passes
  have sameId : other.id = message.id := by simpa using passes
  exact unique.eq_of_id otherMem mem (sameId.trans holds.id)

/-- A record that takes a new id takes the place of its row, and the other rows stay. -/
theorem mem_replaceId {oldId newId : String} {patch : MessagePatch} {result : Message}
    (replaced : store.replaceId oldId newId patch = .ok (result, after)) {row : Row} :
    row ∈ after.rows ↔ ∃ source,
      (source = Row.ofMessage result ∨ source ∈ store.rows ∧ source.id ≠ oldId) ∧
        source.renamePrevious oldId newId = row := by
  rcases replaceId_eq_ok.mp replaced with ⟨message, written, loaded, -, -, overwrote, rfl⟩
  rcases exists_row_of_load loaded with ⟨other, mem, same, -⟩
  simp only [mem_renamePrevious, mem_overwrite overwrote ⟨other, mem, same⟩]

/-- A record that absorbs another keeps its row, unless it takes over the local id of the other. The
row of the other one goes, and the other rows stay. -/
structure Absorbs (store after : Store) (duplicateId canonicalId : String) (canonical : Message)
    (merged : Row) : Prop where
  id : merged.id = canonicalId
  serverId : merged.serverId = canonical.serverId
  holds : canonical.Storable → ∃ localId, merged.Holds { canonical with localId }
  kept : merged ∈ store.rows ∨
    canonical.localId = none ∧ ∃ localId, merged = Row.ofMessage { canonical with localId }
  mem : ∀ row, row ∈ after.rows ↔ ∃ source,
    (source = merged ∨
      source ∈ store.rows ∧ source.id ≠ duplicateId ∧ source.id ≠ canonicalId) ∧
      source.renamePrevious duplicateId canonicalId = row

theorem exists_absorbs (unique : store.UniqueKeys) {duplicateId canonicalId : String}
    {result : Message} (absorbed : store.absorb duplicateId canonicalId = .ok (result, after)) :
    ∃ canonical merged, store.load canonicalId = .ok canonical ∧
      Absorbs store after duplicateId canonicalId canonical merged := by
  rcases absorb_eq_ok.mp absorbed with
    ⟨different, duplicate, canonical, kept, -, canonicalLoaded, rfl, outcome⟩
  rcases exists_row_of_load canonicalLoaded with ⟨canonicalRow, mem, same, holds⟩
  rcases outcome with ⟨⟨noLocal, -⟩, rfl, overwrote⟩ | ⟨-, -, rfl⟩
  · refine ⟨canonical, Row.ofMessage { canonical with localId := duplicate.localId },
      canonicalLoaded, holds.id.trans same, rfl, ?_, ?_, ?_⟩
    · intro storable
      exact ⟨_, Row.holds_ofMessage ⟨storable.created, storable.updated⟩⟩
    · exact Or.inr ⟨by simpa using noLocal, _, rfl⟩
    · intro row
      have present : ∃ other ∈ store.rows.filter (fun row => row.id ≠ duplicateId),
          other.id = canonicalId :=
        ⟨canonicalRow, by simp [mem, same, different.symm], same⟩
      simp only [mem_renamePrevious, mem_overwrite overwrote present, List.mem_filter,
        decide_eq_true_eq, and_assoc]
  · refine ⟨canonical, canonicalRow, canonicalLoaded, same, holds.serverId.symm,
      fun _ => ⟨_, holds⟩, Or.inl mem, ?_⟩
    intro row
    simp only [mem_renamePrevious, List.mem_filter, decide_eq_true_eq]
    refine exists_congr fun source => and_congr_left fun _ => ?_
    constructor
    · rintro ⟨sourceMem, notDuplicate⟩
      by_cases atCanonical : source.id = canonicalId
      · exact Or.inl (unique.eq_of_id sourceMem mem (atCanonical.trans same.symm))
      · exact Or.inr ⟨sourceMem, notDuplicate, atCanonical⟩
    · rintro (rfl | ⟨sourceMem, notDuplicate, -⟩)
      · exact ⟨mem, by rw [same]; exact different.symm⟩
      · exact ⟨sourceMem, notDuplicate⟩

end Store

end MessageSync
