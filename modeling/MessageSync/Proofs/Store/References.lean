import MessageSync.Proofs.Store.Success

/-!
# References when an id changes

Giving a record a new id and merging a record into another are the same change of the rows: one row
is written in the place of one or two, under the id that stays, and the references of all rows
follow. The rows of other ids keep everything else, so a reference leads to the row that it led to
before, or to the one that this was merged into. The other changes leave the rows of other ids
alone.

The row that is written has the fields of the record that was read from its place. A time that was
stored with an offset can be read although it lies outside of the years 0 to 9999 in universal time,
in which it is written: then the row cannot be read any more.
-/

namespace MessageSync

namespace Store

variable {before after : Store} {oldId newId : String} {place row : Row}

/-! ## Rows by their ids -/

/-- The rows whose ids are none of the given ones. -/
def others (store : Store) (ids : List String) : List Row :=
  store.rows.filter fun row => row.id ∉ ids

theorem load_of_withId {store : Store} {id : String} (only : store.withId id = [row]) :
    store.load id = row.toMessage := by
  have found : store.rows.find? (fun row => row.id == id) = some row := by
    have first := congrArg List.head? only
    rw [withId, List.head?_filter] at first
    exact first
  simp only [load, findById, find?, found]
  cases row.toMessage <;> rfl

/-! ## Writing one row in the place of one or two -/

/-- The row at a place, which has the old or the new id, is written anew under the new id. Another
row with one of these ids goes, and references to the old id follow. -/
structure Rewrites (before after : Store) (oldId newId : String) (place row : Row) : Prop where
  mem : place ∈ before.rows
  placed : place.id = oldId ∨ place.id = newId
  id : row.id = newId
  rows : after.rows = ((before.rows.filter fun other =>
    other.id = place.id ∨ other.id ∉ [oldId, newId]).map (overwritten place.id row)).map
      (Row.renamePrevious oldId newId)

namespace Rewrites

variable (rewrites : Rewrites before after oldId newId place row)

include rewrites

theorem placed_mem : place.id ∈ [oldId, newId] := by
  rcases rewrites.placed with same | same <;> simp [same]

theorem mem_rows {later : Row} : later ∈ after.rows ↔
    later = row.renamePrevious oldId newId ∨
      ∃ other ∈ before.others [oldId, newId], other.renamePrevious oldId newId = later := by
  simp only [rewrites.rows, List.mem_map, List.mem_filter, decide_eq_true_eq, Store.others,
    exists_exists_and_eq_and]
  constructor
  · rintro ⟨other, ⟨mem, kept⟩, rfl⟩
    simp only [overwritten]
    split
    · exact Or.inl rfl
    · next elsewhere => exact Or.inr ⟨other, ⟨mem, kept.resolve_left elsewhere⟩, rfl⟩
  · rintro (rfl | ⟨other, ⟨mem, elsewhere⟩, rfl⟩)
    · exact ⟨place, ⟨rewrites.mem, Or.inl rfl⟩, by simp only [overwritten, reduceIte]⟩
    · have elsewhere' : other.id ≠ place.id := fun same => elsewhere (same ▸ rewrites.placed_mem)
      exact ⟨other, ⟨mem, Or.inr elsewhere⟩, by simp only [overwritten, elsewhere', reduceIte]⟩

theorem others : after.others [oldId, newId] =
    (before.others [oldId, newId]).map (Row.renamePrevious oldId newId) := by
  have kept (other : Row) : ((overwritten place.id row other).id ∉ [oldId, newId] ∧
      (other.id = place.id ∨ other.id ∉ [oldId, newId])) ↔ other.id ∉ [oldId, newId] := by
    simp only [overwritten]
    split
    · next here => simp [rewrites.id, here, rewrites.placed_mem]
    · exact ⟨And.left, fun elsewhere => ⟨elsewhere, Or.inr elsewhere⟩⟩
  simp only [Store.others, rewrites.rows, List.filter_map, List.filter_filter, Function.comp_def,
    Row.renamePrevious_id, ← Bool.decide_and, kept, List.map_map]
  apply List.map_congr_left
  intro other mem
  rw [List.mem_filter, decide_eq_true_eq] at mem
  have elsewhere : other.id ≠ place.id := fun same => mem.2 (same ▸ rewrites.placed_mem)
  simp only [overwritten, elsewhere, reduceIte]

theorem uniqueIds (unique : before.UniqueIds) : after.UniqueIds := by
  rw [UniqueIds, rewrites.rows, List.pairwise_map, List.pairwise_map]
  apply List.Pairwise.imp_of_mem _ (List.Pairwise.filter _ unique)
  intro first second firstMem secondMem different
  rw [List.mem_filter, decide_eq_true_eq] at firstMem secondMem
  have new_mem : newId ∈ [oldId, newId] := by simp
  simp only [Row.renamePrevious_id, overwritten]
  split
  · next firstHere =>
      split
      · next secondHere => exact absurd (firstHere.trans secondHere.symm) different
      · next elsewhere =>
          rw [rewrites.id]
          rintro rfl
          exact secondMem.2.resolve_left elsewhere new_mem
  · next elsewhere =>
      split
      · rw [rewrites.id]
        rintro rfl
        exact firstMem.2.resolve_left elsewhere new_mem
      · exact different

theorem withId (unique : before.UniqueIds) :
    after.withId newId = [row.renamePrevious oldId newId] := by
  have only := (rewrites.uniqueIds unique).withId_eq (rewrites.mem_rows.mpr (Or.inl rfl))
  rwa [Row.renamePrevious_id, rewrites.id] at only

theorem forgotten (different : oldId ≠ newId) :
    ∀ later ∈ after.rows, later.id ≠ oldId ∧ later.previousId ≠ some oldId := by
  intro later mem
  rcases rewrites.mem_rows.mp mem with rfl | ⟨other, otherMem, rfl⟩
  · rw [Row.renamePrevious_id, rewrites.id]
    exact ⟨different.symm, Row.renamePrevious_previousId_ne different⟩
  · rw [Row.renamePrevious_id]
    simp only [Store.others, List.mem_filter, List.mem_cons, not_or, decide_eq_true_eq] at otherMem
    exact ⟨otherMem.2.1, Row.renamePrevious_previousId_ne different⟩

/-- Every row is still there, or the row that took its place. -/
theorem exists_heir {target : Row} (mem : target ∈ before.rows) :
    ∃ found ∈ after.rows, found.id = heir oldId newId target.id := by
  by_cases concerned : target.id ∈ [oldId, newId]
  · refine ⟨row.renamePrevious oldId newId, rewrites.mem_rows.mpr (Or.inl rfl), ?_⟩
    rw [Row.renamePrevious_id, rewrites.id, heir]
    split
    · rfl
    · next other => simpa [other, eq_comm] using concerned
  · refine ⟨target.renamePrevious oldId newId, rewrites.mem_rows.mpr (Or.inr ⟨target, ?_, rfl⟩), ?_⟩
    · simpa [Store.others, mem] using concerned
    · have elsewhere : target.id ≠ oldId := by
        rintro same
        simp [same] at concerned
      rw [Row.renamePrevious_id, heir, if_neg elsewhere]

/-- What a row refers to is found by the row that stands for it afterwards, unless that row was given
another reference. -/
theorem references (unique : before.UniqueIds) {source target later : Row}
    (sourceMem : source ∈ before.rows) (targetMem : target ∈ before.rows)
    (refers : source.previousId = some target.id)
    (keeps : heir oldId newId source.id = newId → row.previousId = source.previousId)
    (laterMem : later ∈ after.rows) (follows : later.id = heir oldId newId source.id) :
    ∃ found ∈ after.rows, found.id = heir oldId newId target.id ∧
      later.previousId = some found.id := by
  rcases rewrites.exists_heir targetMem with ⟨found, foundMem, foundId⟩
  refine ⟨found, foundMem, foundId, ?_⟩
  rw [foundId]
  rcases rewrites.mem_rows.mp laterMem with rfl | ⟨other, otherMem, rfl⟩
  · rw [Row.renamePrevious_id, rewrites.id] at follows
    rw [Row.renamePrevious_previousId, keeps follows.symm, refers, Option.map_some]
  · rw [Row.renamePrevious_id] at follows
    simp only [Store.others, List.mem_filter, List.mem_cons, List.not_mem_nil, or_false, not_or,
      decide_eq_true_eq] at otherMem
    have elsewhere : source.id ≠ oldId := by
      intro same
      rw [heir, if_pos same] at follows
      exact otherMem.2.2 follows
    rw [heir, if_neg elsewhere] at follows
    cases unique.eq_of_id otherMem.1 sourceMem follows
    rw [Row.renamePrevious_previousId, refers, Option.map_some]

end Rewrites

/-- References to the old id lead to the new one, the rows of other ids keep everything else, and
what a row refers to is found as before, for the rows that were not given another reference. -/
structure MovesReferences (before after : Store) (oldId newId : String) (keeps : Row → Prop) :
    Prop where
  unique : after.UniqueIds
  forgotten : ∀ row ∈ after.rows, row.id ≠ oldId ∧ row.previousId ≠ some oldId
  others : after.others [oldId, newId] =
    (before.others [oldId, newId]).map (Row.renamePrevious oldId newId)
  references : ∀ row ∈ before.rows, keeps row → ∀ target ∈ before.rows,
    row.previousId = some target.id → ∀ later ∈ after.rows, later.id = heir oldId newId row.id →
      ∃ found ∈ after.rows, found.id = heir oldId newId target.id ∧
        later.previousId = some found.id

/-! ## A new id -/

theorem exists_rewrites_of_replaceId {patch : MessagePatch} {result : Message}
    (replaced : before.replaceId oldId newId patch = .ok (result, after))
    (different : oldId ≠ newId) :
    ∃ message place, before.load oldId = .ok message ∧ place.Holds message ∧ place.id = oldId ∧
      (∀ other ∈ before.rows, other.id ≠ newId) ∧
      Rewrites before after oldId newId place
        (Row.ofMessage { patch.apply message with id := newId }) := by
  rcases replaceId_eq_ok.mp replaced with ⟨message, written, loaded, free, rfl, overwrote, rfl⟩
  have free := free different.symm
  rcases overwrite_eq_ok.mp overwrote with ⟨-, rfl⟩
  rcases exists_row_of_load loaded with ⟨place, mem, same, holds⟩
  refine ⟨message, place, loaded, holds, same, free, mem, Or.inl same, rfl, ?_⟩
  have all : (before.rows.filter fun other =>
      other.id = place.id ∨ other.id ∉ [oldId, newId]) = before.rows := by
    rw [List.filter_eq_self]
    intro other otherMem
    by_cases here : other.id = oldId
    · simp [same, here]
    · simp [same, here, free other otherMem]
  rw [all, same]
  rfl

/-- The record has the fields that the patch sets, and keeps the others. Its id is the new one, and
its reference is moved like that of any row. -/
structure Patched (patch : MessagePatch) (oldId newId : String) (message moved : Message) :
    Prop where
  id : moved.id = newId
  conversationId : moved.conversationId = message.conversationId
  createdAt : moved.createdAt = message.createdAt
  sequenceNumber : moved.sequenceNumber = patch.sequenceNumber.getD message.sequenceNumber
  role : moved.role = patch.role.getD message.role
  contents : moved.contents = patch.contents.getD message.contents
  updatedAt : moved.updatedAt = patch.updatedAt.getD message.updatedAt
  localId : moved.localId = patch.localId.or message.localId
  serverId : moved.serverId = patch.serverId.or message.serverId
  syncStatus : moved.syncStatus = patch.syncStatus.getD message.syncStatus
  previousId : moved.previousId =
    (patch.previousId.or message.previousId).map (heir oldId newId)

/-- A record was given a new id and patched. -/
structure Relocates (before after : Store) (oldId newId : String) (patch : MessagePatch) : Prop
    extends MovesReferences before after oldId newId
      fun row => row.id = oldId → patch.previousId = none where
  moved : ∃ message moved, before.load oldId = .ok message ∧
    Patched patch oldId newId message moved ∧ after.withId newId = [Row.ofMessage moved] ∧
    (after.load newId = .ok moved ↔ moved.Storable)

theorem relocates_of_replaceId (unique : before.UniqueIds) (different : oldId ≠ newId)
    {patch : MessagePatch} {result : Message}
    (replaced : before.replaceId oldId newId patch = .ok (result, after)) :
    Relocates before after oldId newId patch := by
  rcases exists_rewrites_of_replaceId replaced different with
    ⟨message, place, loaded, holds, placeId, free, rewrites⟩
  have only := rewrites.withId unique
  rw [Row.renamePrevious_ofMessage] at only
  refine ⟨⟨rewrites.uniqueIds unique, rewrites.forgotten different, rewrites.others, ?_⟩,
    message, _, loaded, ?_, only, ?_⟩
  · intro source sourceMem keeps target targetMem refers later laterMem follows
    refine rewrites.references unique sourceMem targetMem refers ?_ laterMem follows
    intro moved
    have atPlace : source.id = oldId := by
      by_contra elsewhere
      rw [heir, if_neg elsewhere] at moved
      exact free source sourceMem moved
    cases unique.eq_of_id sourceMem rewrites.mem (atPlace.trans placeId.symm)
    change patch.previousId.or message.previousId = _
    rw [keeps atPlace, Option.none_or, holds.previousId]
  · constructor <;> rfl
  · rw [load_of_withId only, Row.toMessage_ofMessage]
    exact and_iff_left rfl

/-! ## A merge -/

theorem exists_rewrites_of_absorb (unique : before.UniqueIds) {duplicateId canonicalId : String}
    {result : Message}
    (absorbed : before.absorb duplicateId canonicalId = .ok (result, after)) :
    duplicateId ≠ canonicalId ∧ ∃ duplicate canonical place row,
      before.load duplicateId = .ok duplicate ∧ before.load canonicalId = .ok canonical ∧
      place.Holds canonical ∧ place.id = canonicalId ∧
      (TakesAlias duplicate canonical ∧
          row = Row.ofMessage { canonical with localId := duplicate.localId } ∨
        ¬TakesAlias duplicate canonical ∧ row = place) ∧
      Rewrites before after duplicateId canonicalId place row := by
  rcases absorb_eq_ok.mp absorbed with
    ⟨different, duplicate, canonical, kept, duplicateLoaded, canonicalLoaded, rfl, outcome⟩
  rcases exists_row_of_load canonicalLoaded with ⟨place, mem, same, holds⟩
  have left : (before.rows.filter fun other => other.id ≠ duplicateId) =
      before.rows.filter fun other =>
        other.id = place.id ∨ other.id ∉ [duplicateId, canonicalId] := by
    apply List.filter_congr
    intro other otherMem
    by_cases here : other.id = canonicalId
    · simp [same, here, different.symm]
    · simp [same, here]
  refine ⟨different, duplicate, canonical, place, ?_⟩
  rcases outcome with ⟨takes, rfl, overwrote⟩ | ⟨refused, rfl, rfl⟩
  · rcases overwrite_eq_ok.mp overwrote with ⟨-, rfl⟩
    refine ⟨_, duplicateLoaded, canonicalLoaded, holds, same, Or.inl ⟨takes, rfl⟩, mem,
      Or.inr same, holds.id.trans same, ?_⟩
    rw [← left, same]
    rfl
  · refine ⟨place, duplicateLoaded, canonicalLoaded, holds, same, Or.inr ⟨refused, rfl⟩, mem,
      Or.inr same, same, ?_⟩
    rw [← left]
    -- The row is written in its own place.
    have unmoved : (before.rows.filter fun other => other.id ≠ duplicateId).map
        (overwritten place.id place) = before.rows.filter fun other => other.id ≠ duplicateId := by
      refine (List.map_congr_left fun other otherMem => ?_).trans (List.map_id _)
      simp only [overwritten]
      split
      · next here => exact unique.eq_of_id mem (List.mem_filter.mp otherMem).1 here.symm
      · rfl
    rw [unmoved]
    rfl

/-- A record was merged into another, which took over its local id if it had none. -/
structure Absorbed (before after : Store) (duplicateId canonicalId : String) : Prop
    extends MovesReferences before after duplicateId canonicalId
      fun row => row.id ≠ duplicateId where
  merged : ∃ duplicate canonical place, before.load duplicateId = .ok duplicate ∧
    before.load canonicalId = .ok canonical ∧ before.withId canonicalId = [place] ∧
    (TakesAlias duplicate canonical →
      let merged := { canonical with
        localId := duplicate.localId
        previousId := canonical.previousId.map (heir duplicateId canonicalId) }
      after.withId canonicalId = [Row.ofMessage merged] ∧
        (after.load canonicalId = .ok merged ↔ canonical.Storable)) ∧
    (¬TakesAlias duplicate canonical →
      after.withId canonicalId = [place.renamePrevious duplicateId canonicalId])

theorem absorbed_of_absorb (unique : before.UniqueIds) {duplicateId canonicalId : String}
    {result : Message}
    (absorbed : before.absorb duplicateId canonicalId = .ok (result, after)) :
    Absorbed before after duplicateId canonicalId := by
  rcases exists_rewrites_of_absorb unique absorbed with
    ⟨different, duplicate, canonical, place, row, duplicateLoaded, canonicalLoaded, holds, placeId,
      outcome, rewrites⟩
  have only := rewrites.withId unique
  have before_only := unique.withId_eq rewrites.mem
  rw [placeId] at before_only
  refine ⟨⟨rewrites.uniqueIds unique, rewrites.forgotten different, rewrites.others, ?_⟩,
    duplicate, canonical, place, duplicateLoaded, canonicalLoaded, before_only, ?_, ?_⟩
  · intro source sourceMem remains target targetMem refers later laterMem follows
    refine rewrites.references unique sourceMem targetMem refers ?_ laterMem follows
    intro atCanonical
    rw [heir, if_neg remains] at atCanonical
    cases unique.eq_of_id sourceMem rewrites.mem (atCanonical.trans placeId.symm)
    rcases outcome with ⟨-, rfl⟩ | ⟨-, rfl⟩
    · exact holds.previousId
    · rfl
  · intro takes
    rcases outcome with ⟨-, rfl⟩ | ⟨refused, -⟩
    · rw [Row.renamePrevious_ofMessage] at only
      refine ⟨only, ?_⟩
      rw [load_of_withId only, Row.toMessage_ofMessage]
      constructor
      · rintro ⟨storable, -⟩
        exact ⟨storable.created, storable.updated⟩
      · intro storable
        exact ⟨⟨storable.created, storable.updated⟩, rfl⟩
    · exact absurd takes refused
  · intro refused
    rcases outcome with ⟨takes, -⟩ | ⟨-, rfl⟩
    · exact absurd takes refused
    · exact only

/-! ## All changes -/

theorem others_of_insert {message : Message} (inserted : before.insert message = .ok after) :
    after.others [message.id] = before.others [message.id] := by
  rcases insert_eq_ok.mp inserted with ⟨-, rfl⟩
  simp [others, Row.ofMessage]

theorem others_of_overwrite {id blamed : String} {message : Message} (same : message.id = id)
    (written : before.overwrite id message blamed = .ok after) :
    after.others [id] = before.others [id] := by
  rcases overwrite_eq_ok.mp written with ⟨-, rfl⟩
  have kept (other : Row) :
      (overwritten id (Row.ofMessage message) other).id = id ↔ other.id = id := by
    simp only [overwritten]
    split
    · next here => exact iff_of_true same here
    · rfl
  simp only [others, List.filter_map, Function.comp_def, List.mem_singleton, kept]
  refine (List.map_congr_left fun other mem => ?_).trans (List.map_id _)
  rw [List.mem_filter, decide_eq_true_eq] at mem
  exact if_neg mem.2

theorem others_of_upsert {message : Message} (upserted : before.upsert message = .ok after) :
    after.others [message.id] = before.others [message.id] := by
  simp only [upsert] at upserted
  split at upserted
  · exact others_of_overwrite rfl upserted
  · exact others_of_insert upserted

theorem others_of_update {id : String} {patch : MessagePatch} {result : Message}
    (updated : before.update id patch = .ok (result, after)) :
    after.others [id] = before.others [id] := by
  rcases update_eq_ok.mp updated with ⟨message, loaded, rfl, overwrote⟩
  rcases exists_row_of_load loaded with ⟨row, -, same, holds⟩
  have sameId : (patch.apply message).id = id := holds.id.trans same
  exact others_of_overwrite sameId overwrote

/-- References follow an id that changes or goes, and nothing else is changed but the record that a
change is about. -/
theorem changes_keep_others (unique : before.UniqueIds) :
    (∀ oldId newId patch result, oldId ≠ newId →
      before.replaceId oldId newId patch = .ok (result, after) →
        Relocates before after oldId newId patch) ∧
    (∀ duplicateId canonicalId result,
      before.absorb duplicateId canonicalId = .ok (result, after) →
        Absorbed before after duplicateId canonicalId) ∧
    (∀ message, before.insert message = .ok after ∨ before.upsert message = .ok after →
      after.others [message.id] = before.others [message.id]) ∧
    ∀ id patch result, before.update id patch = .ok (result, after) →
      after.others [id] = before.others [id] := by
  refine ⟨?_, ?_, ?_, ?_⟩
  · intro oldId newId patch result different replaced
    exact relocates_of_replaceId unique different replaced
  · intro duplicateId canonicalId result absorbed
    exact absorbed_of_absorb unique absorbed
  · rintro message (inserted | upserted)
    · exact others_of_insert inserted
    · exact others_of_upsert upserted
  · intro id patch result updated
    exact others_of_update updated

/-- A record that refers to itself, and one of another conversation that refers to it. -/
def selfReferring : Store :=
  let written := Message.canonical "l1" "c1" 1 .user "Hi" default
  ⟨[Row.ofMessage { written with previousId := some "l1", localId := some "l1", serverId := none },
    Row.ofMessage { written with
      id := "m2", conversationId := "c2", serverId := none, previousId := some "l1" }],
    schemaVersion⟩

theorem changes_keep_others_selfReferring :
    (∃ result after, selfReferring.replaceId "l1" "m1" {} = .ok (result, after) ∧
      Relocates selfReferring after "l1" "m1" {}) ∧
    ∃ result after, selfReferring.absorb "l1" "m2" = .ok (result, after) ∧
      Absorbed selfReferring after "l1" "m2" := by
  have unique : selfReferring.UniqueIds := List.pairwise_pair.mpr (by decide)
  have replaces : (selfReferring.replaceId "l1" "m1" {}).toOption.isSome = true := by decide +kernel
  have absorbs : (selfReferring.absorb "l1" "m2").toOption.isSome = true := by decide +kernel
  rcases Option.isSome_iff_exists.mp replaces with ⟨⟨moved, replaced⟩, replaces⟩
  rcases Option.isSome_iff_exists.mp absorbs with ⟨⟨merged, left⟩, absorbs⟩
  refine ⟨⟨moved, replaced, except_eq_ok_of_toOption replaces, ?_⟩,
    merged, left, except_eq_ok_of_toOption absorbs, ?_⟩
  · exact (changes_keep_others unique).1 "l1" "m1" {} moved (by decide)
      (except_eq_ok_of_toOption replaces)
  · exact (changes_keep_others unique).2.1 "l1" "m2" merged (except_eq_ok_of_toOption absorbs)

/-- A record that was created in the year before the year 0, in universal time. -/
def beforeYearZero : Store :=
  ⟨[{ Row.ofMessage (Message.canonical "l1" "c1" 1 .user "Hi" default) with
      createdAt := "0000-01-01T00:00:00+01:00" }], schemaVersion⟩

theorem not_createdAt_kept_by_replaceId :
    ¬∀ (before after : Store) (oldId newId : String) (patch : MessagePatch)
        (message result : Message), before.Legible → before.UniqueIds → oldId ≠ newId →
      before.load oldId = .ok message →
      before.replaceId oldId newId patch = .ok (result, after) →
        ∃ moved, after.load newId = .ok moved ∧ moved.createdAt = message.createdAt := by
  intro kept
  have loads : (beforeYearZero.load "l1").toOption.isSome = true := by decide +kernel
  rcases Option.isSome_iff_exists.mp loads with ⟨message, loaded⟩
  have loaded := except_eq_ok_of_toOption loaded
  have legible : beforeYearZero.Legible := by
    intro row mem
    rcases exists_row_of_load loaded with ⟨only, onlyMem, -, holds⟩
    rw [List.mem_singleton.mp mem, ← List.mem_singleton.mp onlyMem]
    exact ⟨message, holds⟩
  have replaces : (beforeYearZero.replaceId "l1" "m1" {}).toOption.map (fun done =>
      (done.2.load "m1").toOption.isSome) = some false := by decide +kernel
  rcases exists_of_toOption_map replaces with ⟨⟨result, after⟩, replaced, unreadable⟩
  rcases kept beforeYearZero after "l1" "m1" {} message result legible
    (List.pairwise_singleton _ _) (by decide) loaded replaced with ⟨moved, read, -⟩
  rw [read] at unreadable
  cases unreadable

end Store

end MessageSync
