import MessageSync.Proofs.Engine.Confinement
import MessageSync.Proofs.Reconcile.Departures

/-!
# What listeners are told of merged records

After a merge that changed something, listeners are told of the record under the id of the outcome,
as it is stored then. That is one record. So the rows whose references were moved go untold, and so
does a record that cannot be read again, and one whose merge ended halfway. If none of this happens,
every row that is new or differs is told of.

Conversely nothing is told if the rows are the same afterwards. A merge that changes something may
be followed by others, but no merge undoes what that of another local id did.
-/

namespace MessageSync

namespace MessageLog

variable {σ : Type} [MessageLog σ]

/-- What listeners are told of the record with an id: the record as it is stored, if it can be
read. -/
def stored (log : σ) (id : String) : List Message :=
  match findById log id with
  | .ok (some message) => [message]
  | _ => []

/-- The records that listeners are told of when records are merged one after the other, up to the
first that cannot be merged. -/
def news (window : MatchWindow) : List Message → σ → List Message
  | [], _ => []
  | record :: records, log =>
    match (reconcile record window).runOn log with
    | (.ok outcome, after) =>
      (if outcome.changed then stored after outcome.id else []) ++ news window records after
    | (.error _, _) => []

end MessageLog

/-- The row is that of the record. -/
def Row.IsOf (row : Row) (message : Message) : Prop :=
  row.Holds message ∨ row = Row.ofMessage message

theorem Row.IsOf.id {row : Row} {message : Message} (isOf : row.IsOf message) :
    message.id = row.id := by
  rcases isOf with holds | rfl
  · exact holds.id
  · rfl

namespace Store

open MessageLog (stored news reconcile reconcileAll)

variable {before store middle after : Store} {window : MatchWindow} {record incoming : Message}
  {records : List Message} {told more : List Message}

/-! ## Telling of every change -/

/-- Every row that is new or differs is that of a record that is told. -/
def Announces (before after : Store) (told : List Message) : Prop :=
  ∀ row ∈ after.rows, row ∉ before.rows → ∃ message ∈ told, row.IsOf message

/-- No row refers to an id that gives way when the record is merged, apart from the row that had
this id and the one that has the other. -/
def Unreferred (store : Store) (window : MatchWindow) (record : Message) : Prop :=
  ∀ move ∈ store.move? record window, ∀ row ∈ store.rows,
    row.previousId = some move.1 → row.id = move.1 ∨ row.id = move.2

/-- Whatever merging the record changes is told: it does not end halfway, no other row refers to an
id that gives way, and the record can be read afterwards. -/
structure Audible (store : Store) (window : MatchWindow) (record : Message) : Prop where
  whole : ∀ error, ((reconcile record window).runOn store).1 = .error error →
    ((reconcile record window).runOn store).2 = store
  unreferred : store.Unreferred window record
  legible : ∀ outcome, ((reconcile record window).runOn store).1 = .ok outcome →
    outcome.changed = true → stored ((reconcile record window).runOn store).2 outcome.id ≠ []

theorem unreferred_of_still (still : store.move? record window = none) :
    store.Unreferred window record := by
  rw [Unreferred, still]
  exact fun _ mem => nomatch mem

theorem unreferred_iff_of_moves {oldId newId : String}
    (moves : store.move? record window = some (oldId, newId)) :
    store.Unreferred window record ↔ ∀ row ∈ store.rows,
      row.previousId = some oldId → row.id = oldId ∨ row.id = newId := by
  simp [Unreferred, moves]

theorem announces_self (store : Store) (told : List Message) : Announces store store told :=
  fun _ mem new => absurd mem new

theorem Announces.trans (first : Announces before middle told)
    (second : Announces middle after more) : Announces before after (told ++ more) := by
  intro row mem new
  by_cases known : row ∈ middle.rows
  · rcases first row known new with ⟨message, isTold, isOf⟩
    exact ⟨message, List.mem_append_left _ isTold, isOf⟩
  · rcases second row mem known with ⟨message, isTold, isOf⟩
    exact ⟨message, List.mem_append_right _ isTold, isOf⟩

theorem mem_stored {id : String} {message : Message} :
    message ∈ stored store id ↔ store.load id = .ok message := by
  rw [load_eq_ok]
  change message ∈ (match store.findById id with
    | .ok (some message) => [message]
    | _ => []) ↔ _
  rcases store.findById id with _ | _ | found
  · simp
  · simp
  · simp [eq_comm]

theorem mem_stored_of_mem (unique : store.UniqueIds) {row : Row} (mem : row ∈ store.rows)
    {message : Message} : message ∈ stored store row.id ↔ row.Holds message := by
  rw [mem_stored, load_of_withId (unique.withId_eq mem), Row.toMessage_eq_ok]

theorem id_of_mem_stored {id : String} {message : Message} (isTold : message ∈ stored store id) :
    message.id = id := by
  rcases exists_row_of_load (mem_stored.mp isTold) with ⟨row, -, same, holds⟩
  exact holds.id.trans same

/-- When a row is written in the place of others and told of, the rows that refer to the old id are
not. -/
theorem Rewrites.announces_iff {oldId newId : String} {place row : Row}
    (rewrites : Rewrites before after oldId newId place row) (unique : before.UniqueIds)
    (different : oldId ≠ newId) :
    Announces before after (stored after newId) ↔
      (∀ other ∈ before.rows, other.previousId = some oldId →
          other.id = oldId ∨ other.id = newId) ∧
        (row.renamePrevious oldId newId ∈ before.rows ∨ stored after newId ≠ []) := by
  have written : row.renamePrevious oldId newId ∈ after.rows := rewrites.mem_rows.mpr (Or.inl rfl)
  have writtenId : (row.renamePrevious oldId newId).id = newId := by
    rw [Row.renamePrevious_id, rewrites.id]
  constructor
  · intro announces
    refine ⟨?_, ?_⟩
    · intro other mem refers
      -- A row with a moved reference differs from before, and only the new id is told of.
      by_contra elsewhere
      have moved : other.renamePrevious oldId newId ∈ after.rows := by
        refine rewrites.mem_rows.mpr (Or.inr ⟨other, ?_, rfl⟩)
        simpa [Store.others, mem] using elsewhere
      have differs : other.renamePrevious oldId newId ∉ before.rows := by
        intro still
        have same := unique.eq_of_id still mem (Row.renamePrevious_id _ _ _)
        have forgotten := (rewrites.forgotten different _ moved).2
        rw [same] at forgotten
        exact forgotten refers
      rcases announces _ moved differs with ⟨message, isTold, isOf⟩
      have atId := isOf.id.symm.trans (id_of_mem_stored isTold)
      rw [Row.renamePrevious_id] at atId
      exact elsewhere (Or.inr atId)
    · by_cases still : row.renamePrevious oldId newId ∈ before.rows
      · exact Or.inl still
      · rcases announces _ written still with ⟨message, isTold, -⟩
        exact Or.inr (List.ne_nil_of_mem isTold)
  · rintro ⟨unreferred, legible⟩ later mem new
    rcases rewrites.mem_rows.mp mem with rfl | ⟨other, otherMem, rfl⟩
    · rcases List.exists_mem_of_ne_nil _ (legible.resolve_left new) with ⟨message, isTold⟩
      have holds := isTold
      rw [← writtenId, mem_stored_of_mem (rewrites.uniqueIds unique) written] at holds
      exact ⟨message, isTold, Or.inl holds⟩
    · simp only [Store.others, List.mem_filter, List.mem_cons, List.not_mem_nil, or_false,
        decide_eq_true_eq] at otherMem
      have unmoved : other.previousId ≠ some oldId := fun refers =>
        otherMem.2 (unreferred other otherMem.1 refers)
      rw [Row.renamePrevious_of_ne unmoved] at new
      exact absurd otherMem.1 new

/-- A row is told of that was added with an id which no row had. -/
theorem announces_append_iff {row : Row}
    (free : ∀ other ∈ store.rows, other.id ≠ row.id) (unique : store.UniqueIds) :
    let after : Store := { store with rows := store.rows ++ [row] }
    Announces store after (stored after row.id) ↔ stored after row.id ≠ [] := by
  intro after
  have mem : row ∈ after.rows := List.mem_append_right _ (List.mem_singleton.mpr rfl)
  have afterUnique : after.UniqueIds := by
    refine List.pairwise_append.mpr ⟨unique, List.pairwise_singleton _ _, ?_⟩
    intro other otherMem last same
    rw [List.mem_singleton.mp same]
    exact free other otherMem
  constructor
  · intro announces
    rcases announces row mem fun still => free row still rfl with ⟨message, isTold, -⟩
    exact List.ne_nil_of_mem isTold
  · intro legible later laterMem new
    rcases List.mem_append.mp laterMem with old | same
    · exact absurd old new
    · cases List.mem_singleton.mp same
      rcases List.exists_mem_of_ne_nil _ legible with ⟨message, isTold⟩
      exact ⟨message, isTold, Or.inl ((mem_stored_of_mem afterUnique mem).mp isTold)⟩

section Merging

variable {existing : Message} {former place row : Row}
  (merging : Merging incoming store existing former place row after) (unique : store.UniqueIds)

include merging unique

theorem Merging.eq_place (still : row.renamePrevious former.id place.id ∈ store.rows) :
    row.renamePrevious former.id place.id = place := by
  refine unique.eq_of_id still merging.rewrites.mem ?_
  rw [Row.renamePrevious_id, merging.rewrites.id]

/-- A record that another was merged into can be read if its row is as it was. -/
theorem Merging.stored_ne_nil (still : row.renamePrevious former.id place.id ∈ store.rows) :
    stored after place.id ≠ [] := by
  have written : row.renamePrevious former.id place.id ∈ after.rows :=
    merging.rewrites.mem_rows.mpr (Or.inl rfl)
  rw [merging.eq_place unique still] at written
  exact List.ne_nil_of_mem
    ((mem_stored_of_mem (merging.rewrites.uniqueIds unique) written).mpr merging.holds)

/-- A merge that ends halfway is not told of. -/
theorem Merging.not_announces (free : place.localId = none)
    (takes : row.localId = incoming.localId) : ¬Announces store after [] := by
  intro announces
  have written : row.renamePrevious former.id place.id ∈ after.rows :=
    merging.rewrites.mem_rows.mpr (Or.inl rfl)
  have differs : row.renamePrevious former.id place.id ∉ store.rows := by
    intro still
    have localId := congrArg Row.localId (merging.eq_place unique still)
    rw [Row.renamePrevious_localId, takes, free] at localId
    have isSome := merging.namedBy.2.1
    rw [merging.namedBy.2.2, localId] at isSome
    cases isSome
  rcases announces _ written differs with ⟨message, isTold, -⟩
  cases isTold

end Merging

theorem news_of_ok {outcome : Outcome}
    (ran : (reconcile record window).runOn store = (.ok outcome, after)) :
    news window (record :: records) store =
      (if outcome.changed then stored after outcome.id else []) ++ news window records after := by
  simp only [news, ran]

theorem news_of_error {error : LogError}
    (ran : (reconcile record window).runOn store = (.error error, after)) :
    news window (record :: records) store = [] := by
  simp only [news, ran]

theorem audible_iff_of_ok {outcome : Outcome}
    (ran : (reconcile record window).runOn store = (.ok outcome, after))
    (changed : outcome.changed = true) :
    store.Audible window record ↔
      store.Unreferred window record ∧ stored after outcome.id ≠ [] := by
  constructor
  · rintro ⟨-, unreferred, legible⟩
    rw [ran] at legible
    exact ⟨unreferred, legible outcome rfl changed⟩
  · rintro ⟨unreferred, legible⟩
    refine ⟨?_, unreferred, ?_⟩
    · rw [ran]
      exact fun _ same => nomatch same
    · rw [ran]
      rintro _ ⟨⟩ -
      exact legible

/-- All that merging a record changes is told exactly if the record is audible. -/
theorem announces_iff_audible (unique : store.UniqueKeys) :
    Announces store ((reconcile record window).runOn store).2 (news window [record] store) ↔
      store.Audible window record := by
  have effect := effect_of_reconcile unique record window
  rcases ran : (reconcile record window).runOn store with ⟨result, after⟩
  rw [ran] at effect
  simp only at effect ⊢
  cases effect with
  | unchanged still same =>
      refine iff_of_true (announces_self _ _)
        ⟨fun _ _ => by rw [ran], unreferred_of_still still, ?_⟩
      intro outcome done changed
      rw [ran] at done
      rw [same outcome done] at changed
      cases changed
  | inserted still unknown =>
      have free : ∀ other ∈ store.rows, other.id ≠ (Row.ofMessage record.acknowledged).id :=
        fun other mem => (known_eq_none.mp unknown other mem).2
      rw [audible_iff_of_ok ran rfl, and_iff_right (unreferred_of_still still), news_of_ok ran]
      simp only [Outcome.changed, Outcome.id, reduceIte, news, List.append_nil]
      exact announces_append_iff free unique.uniqueIds
  | @moved place row outcome _ moves reports unknown within chosen stays localId settled rewrites =>
      have different : place.id ≠ record.serverKey :=
        (known_eq_none.mp unknown place rewrites.mem).2
      rcases Outcome.changed_of_move? reports with ⟨changed, atId⟩
      have new : row.renamePrevious place.id record.serverKey ∉ store.rows := by
        intro still
        have free := (known_eq_none.mp unknown _ still).2
        rw [Row.renamePrevious_id, rewrites.id] at free
        exact free rfl
      rw [audible_iff_of_ok ran changed, unreferred_iff_of_moves moves, news_of_ok ran, atId,
        if_pos changed]
      simpa [news, new] using rewrites.announces_iff unique.uniqueIds different
  | @merged former place row existing _ moves settled elsewhere merging =>
      have announces := merging.rewrites.announces_iff unique.uniqueIds merging.different
      rw [or_iff_right_of_imp (merging.stored_ne_nil unique.uniqueIds)] at announces
      rw [audible_iff_of_ok ran rfl, unreferred_iff_of_moves moves, news_of_ok ran]
      simpa [news, Outcome.changed, Outcome.id] using announces
  | spoiled moves within free takes merging =>
      -- The row that took over the local id is new, and nothing is told of a merge that failed.
      rw [news_of_error ran]
      refine iff_of_false (merging.not_announces unique.uniqueIds free takes) ?_
      rintro ⟨whole, -⟩
      rw [ran] at whole
      exact merging.rewrites.ne merging.different merging.mem rfl (whole _ rfl)

/-- A readable store has nothing but references that could go untold. -/
theorem Readable.audible_iff (readable : store.Readable) (unique : store.UniqueKeys)
    (storable : record.Storable) :
    store.Audible window record ↔ store.Unreferred window record := by
  have succeeds : ∃ outcome after, Merges record window store outcome after :=
    exists_merges unique readable.legible (readable.not_spoils record)
  rcases succeeds with ⟨outcome, after, merges⟩
  have ran := merges.reconcile_eq
  refine ⟨Audible.unreferred, fun unreferred => ?_⟩
  by_cases changed : outcome.changed = true
  · refine (audible_iff_of_ok ran changed).mpr ⟨unreferred, ?_⟩
    rcases merges.settled unique with ⟨row, settled, sameId⟩
    rcases readable.merges unique storable merges row settled.mem with ⟨message, read, -⟩
    rw [← sameId]
    exact List.ne_nil_of_mem ((mem_stored_of_mem (unique.merges merges).uniqueIds settled.mem).mpr
      (Row.toMessage_eq_ok.mp read))
  · refine ⟨?_, unreferred, ?_⟩
    · rw [ran]
      exact fun _ failed => nomatch failed
    · rw [ran]
      rintro _ ⟨⟩ isChanged
      exact absurd isChanged changed

theorem Readable.reconcileAll (readable : store.Readable) (unique : store.UniqueKeys)
    (storable : ∀ record ∈ records, record.Storable)
    (ran : (MessageLog.reconcileAll window records).runOn store = (.ok (), after)) :
    after.Readable := by
  refine (kept_of_reconcileAll (fun log => log.UniqueKeys ∧ log.Readable) ?_
    ⟨unique, readable⟩ ran).2
  rintro record mem before outcome next ⟨unique, readable⟩ merges
  exact ⟨unique.merges merges, readable.merges unique (storable record mem) merges⟩

/-- The records of years of four digits that a readable store is to merge are audible exactly if no
other row refers to an id that gives way when their turn comes. -/
theorem Readable.audible_iff_of_turn (readable : store.Readable) (unique : store.UniqueKeys)
    (storable : ∀ record ∈ records, record.Storable)
    (turn : Turn window records store record middle) :
    middle.Audible window record ↔ middle.Unreferred window record := by
  rcases turn with ⟨earlier, later, rfl, ran⟩
  rw [List.forall_mem_append, List.forall_mem_cons] at storable
  exact (readable.reconcileAll unique storable.1 ran).audible_iff (unique.reconcileAll ran)
    storable.2.1

/-- Audible records are told of, and so are all rows that their merging changes. -/
theorem announces_reconcileAll (unique : store.UniqueKeys)
    (audible : ∀ record middle, Turn window records store record middle →
      middle.Audible window record) :
    Announces store ((reconcileAll window records).runOn store).2 (news window records store) := by
  induction records generalizing store with
  | nil => exact announces_self store []
  | cons record records ih =>
      have first := (announces_iff_audible unique).mpr (audible record store (turn_first record))
      simp only [news, reconcileAll, LogM.runOn_bind] at first ⊢
      rcases ran : (reconcile record window).runOn store with ⟨_ | outcome, next⟩
      · simpa only [ran] using first
      · simp only [ran, List.append_nil] at first
        refine first.trans (ih (unique.merges (merges_of_reconcile ran)) ?_)
        intro other middle turn
        exact audible other middle (turn.later ran)

/-! ## Telling of nothing -/

theorem Departs.reconcileAll {localId : Option String} (departs : Departs localId before store)
    (unique : store.UniqueKeys)
    (others : ∀ record ∈ records, localId.isSome ∧ localId ≠ record.localId) :
    Departs localId before ((reconcileAll window records).runOn store).2 := by
  induction records generalizing store with
  | nil => exact departs
  | cons record records ih =>
      rcases others record List.mem_cons_self with ⟨isSome, other⟩
      have next : Departs localId before ((MessageLog.reconcile record window).runOn store).2 :=
        departs.reconcile unique isSome other
      simp only [MessageLog.reconcileAll, LogM.runOn_bind]
      rcases ran : (MessageLog.reconcile record window).runOn store with ⟨_ | outcome, after⟩
      · rwa [ran] at next
      · rw [ran] at next
        exact ih next (unique.merges (merges_of_reconcile ran))
          fun record mem => others record (List.mem_cons_of_mem _ mem)

/-- If the rows are the same after records of different local ids were merged, nothing is told. -/
theorem news_eq_nil (unique : store.UniqueKeys)
    (distinct : records.Pairwise fun first second =>
      first.localId.isSome ∧ first.localId ≠ second.localId)
    (same : ∀ row, row ∈ ((reconcileAll window records).runOn store).2.rows ↔ row ∈ store.rows) :
    news window records store = [] := by
  induction records generalizing store with
  | nil => rfl
  | cons record records ih =>
      rw [List.pairwise_cons] at distinct
      rcases ran : (reconcile record window).runOn store with ⟨error | outcome, after⟩
      · exact news_of_error ran
      rw [reconcileAll, LogM.runOn_bind, ran] at same
      -- If the first record changed something, the merges of the others do not undo that.
      by_cases changed : outcome.changed = true
      · have departs := departs_of_changed unique ran changed
        refine absurd same (departs.reconcileAll ?_ distinct.1).not_same
        exact unique.merges (merges_of_reconcile ran)
      · have unchanged := eq_of_unchanged unique ran (Bool.eq_false_of_not_eq_true changed)
        subst unchanged
        rw [news_of_ok ran, if_neg changed, List.nil_append]
        exact ih unique distinct.2 same

end Store

end MessageSync
