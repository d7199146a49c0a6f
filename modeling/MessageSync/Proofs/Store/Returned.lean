import MessageSync.Proofs.Store.References

/-!
# The records that changes return

A change of a record returns the record that it wrote. When the record takes a new id, or absorbs
another one, the references to the id that gives way are moved after that: the row is found with the
reference moved, and the record that was returned still has the old one. Only the reference can make
a difference, apart from times that a row cannot hold.

The same move can make a record its own predecessor: the record that takes the new id if it refers
to the old or to the new one, and the record that absorbs another one if it refers to that one.
-/

namespace MessageSync

/-- A reference does not decide whether a record can be stored. -/
theorem Message.storable_withPrevious {message : Message} {reference : Option String} :
    { message with previousId := reference }.Storable ↔ message.Storable :=
  ⟨fun fits => ⟨fits.created, fits.updated⟩, fun fits => ⟨fits.created, fits.updated⟩⟩

theorem Message.eq_withPrevious_iff {message : Message} {reference : Option String} :
    message = { message with previousId := reference } ↔ message.previousId = reference := by
  constructor
  · exact congrArg Message.previousId
  · rintro rfl
    rfl

/-- The row refers to itself as its predecessor. -/
def Row.IsOwnPrevious (row : Row) : Prop :=
  row.previousId = some row.id

instance (row : Row) : Decidable row.IsOwnPrevious :=
  inferInstanceAs (Decidable (_ = _))

@[simp]
theorem Row.renamePrevious_self (id : String) (row : Row) : row.renamePrevious id id = row := by
  simp only [renamePrevious]
  split
  · next same => rw [← same]
  · rfl

theorem map_heir_eq_self {oldId newId : String} {reference : Option String} :
    reference.map (heir oldId newId) = reference ↔ (reference = some oldId → newId = oldId) := by
  cases reference with
  | none => simp
  | some id =>
      simp only [Option.map_some, Option.some.injEq, heir]
      split
      · next same => simp [same]
      · next other => simp [other]

theorem map_heir_eq_new {oldId newId : String} {reference : Option String} :
    reference.map (heir oldId newId) = some newId ↔
      reference = some oldId ∨ reference = some newId := by
  cases reference with
  | none => simp
  | some id =>
      simp only [Option.map_some, Option.some.injEq, heir]
      split
      · next same => simp [same]
      · next other => simp [other]

namespace Store

variable {before after : Store} {oldId newId : String} {place row : Row}

@[simp]
theorem renamePrevious_self (id : String) : before.renamePrevious id id = before := by
  have unmoved : Row.renamePrevious id id = fun row => row := funext (Row.renamePrevious_self id)
  rw [renamePrevious, unmoved, List.map_id']

/-! ## The row of a record that was written -/

theorem findById_of_withId {id : String} {message : Message} (only : after.withId id = [row]) :
    after.findById id = .ok (some message) ↔ row.toMessage = .ok message := by
  rw [← load_eq_ok, load_of_withId only]

theorem UniqueIds.overwrite (unique : before.UniqueIds) {id blamed : String} {message : Message}
    (same : message.id = id) (written : before.overwrite id message blamed = .ok after) :
    after.UniqueIds := by
  rcases overwrite_eq_ok.mp written with ⟨-, rfl⟩
  have keeps (other : Row) : (overwritten id (Row.ofMessage message) other).id = other.id := by
    simp only [overwritten]
    split
    · next here => exact same.trans here.symm
    · rfl
  simp only [UniqueIds, List.pairwise_map, keeps]
  exact unique

/-- A record that is written in its own place is found again if its times can be stored. -/
theorem findById_of_overwrite (unique : before.UniqueIds) {id blamed : String}
    {message read : Message} (loaded : ∃ former, before.load id = .ok former)
    (same : message.id = id) (written : before.overwrite id message blamed = .ok after) :
    after.findById id = .ok (some read) ↔ message.Storable ∧ read = message := by
  rcases loaded with ⟨former, loaded⟩
  rcases exists_row_of_load loaded with ⟨other, mem, otherId, -⟩
  have there := (mem_overwrite written ⟨other, mem, otherId⟩).mpr (Or.inl rfl)
  have only := (unique.overwrite same written).withId_eq there
  rw [show (Row.ofMessage message).id = id from same] at only
  rw [findById_of_withId only, Row.toMessage_ofMessage]

namespace Rewrites

variable (rewrites : Rewrites before after oldId newId place row)

include rewrites

/-- A row that was not its own predecessor becomes it only in the place that is written anew. -/
theorem isOwnPrevious_iff (unique : before.UniqueIds) {source later : Row}
    (sourceMem : source ∈ before.rows) (laterMem : later ∈ after.rows)
    (follows : later.id = heir oldId newId source.id) (not_own : ¬source.IsOwnPrevious) :
    later.IsOwnPrevious ↔ heir oldId newId source.id = newId ∧
      (row.previousId = some oldId ∨ row.previousId = some newId) := by
  rcases rewrites.mem_rows.mp laterMem with rfl | ⟨other, otherMem, rfl⟩
  · rw [Row.renamePrevious_id, rewrites.id] at follows
    rw [Row.IsOwnPrevious, Row.renamePrevious_id, rewrites.id, Row.renamePrevious_previousId,
      map_heir_eq_new]
    exact (and_iff_right follows.symm).symm
  · simp only [Store.others, List.mem_filter, List.mem_cons, List.not_mem_nil, or_false, not_or,
      decide_eq_true_eq] at otherMem
    rw [Row.renamePrevious_id] at follows
    have elsewhere : heir oldId newId source.id ≠ newId := fun same =>
      otherMem.2.2 (follows.trans same)
    simp only [elsewhere, false_and, iff_false]
    have unmoved : source.id ≠ oldId := fun same => elsewhere (if_pos same)
    rw [heir, if_neg unmoved] at follows
    cases unique.eq_of_id otherMem.1 sourceMem follows
    intro own
    rw [Row.IsOwnPrevious, Row.renamePrevious_id, Row.renamePrevious_previousId,
      Option.map_eq_some_iff] at own
    rcases own with ⟨reference, refers, led⟩
    rw [heir] at led
    split at led
    · exact otherMem.2.2 led.symm
    · exact not_own (refers.trans (congrArg some led))

end Rewrites

/-! ## What is returned and what is found -/

/-- The record that a patch was applied to is found as it was returned, if its times can be
stored. -/
theorem findById_of_update (unique : before.UniqueIds) {id : String} {patch : MessagePatch}
    {result read : Message} (updated : before.update id patch = .ok (result, after)) :
    after.findById result.id = .ok (some read) ↔ result.Storable ∧ read = result := by
  rcases update_eq_ok.mp updated with ⟨message, loaded, rfl, overwrote⟩
  rcases exists_row_of_load loaded with ⟨found, -, same, holds⟩
  have sameId : (patch.apply message).id = id := holds.id.trans same
  rw [sameId]
  exact findById_of_overwrite unique ⟨message, loaded⟩ sameId overwrote

/-- The record that took a new id is found as it was returned, with its reference moved. -/
theorem findById_of_replaceId (unique : before.UniqueIds) {patch : MessagePatch}
    {result read : Message} (replaced : before.replaceId oldId newId patch = .ok (result, after)) :
    after.findById result.id = .ok (some read) ↔ result.Storable ∧
      read = { result with previousId := result.previousId.map (heir oldId newId) } := by
  by_cases different : oldId = newId
  · subst newId
    rcases replaceId_eq_ok.mp replaced with ⟨message, written, loaded, -, rfl, overwrote, rfl⟩
    rw [renamePrevious_self, map_heir_eq_self.mpr fun _ => rfl]
    exact findById_of_overwrite unique ⟨message, loaded⟩ rfl overwrote
  · rcases exists_rewrites_of_replaceId replaced different with
      ⟨message, place, loaded, -, -, -, rewrites⟩
    rcases replaceId_eq_ok.mp replaced with ⟨patched, -, patchedLoaded, -, rfl, -, -⟩
    cases patchedLoaded.symm.trans loaded
    rw [findById_of_withId (rewrites.withId unique), Row.renamePrevious_ofMessage,
      Row.toMessage_ofMessage, Message.storable_withPrevious]

/-- What a merge returns: the record that was written, or the one that its row holds. -/
theorem exists_returned_of_absorb (unique : before.UniqueIds) {duplicateId canonicalId : String}
    {duplicate canonical result : Message}
    (absorbed : before.absorb duplicateId canonicalId = .ok (result, after))
    (duplicateLoaded : before.load duplicateId = .ok duplicate)
    (canonicalLoaded : before.load canonicalId = .ok canonical) :
    ∃ place row, place.Holds canonical ∧ place.id = canonicalId ∧ result.id = canonicalId ∧
      result.previousId = row.previousId ∧ row.previousId = place.previousId ∧
      (TakesAlias duplicate canonical ∧ row = Row.ofMessage result ∨
        ¬TakesAlias duplicate canonical ∧ row.Holds result) ∧
      Rewrites before after duplicateId canonicalId place row := by
  rcases exists_rewrites_of_absorb unique absorbed with
    ⟨-, otherDuplicate, otherCanonical, place, row, firstLoaded, secondLoaded, holds, placeId,
      written, rewrites⟩
  cases firstLoaded.symm.trans duplicateLoaded
  cases secondLoaded.symm.trans canonicalLoaded
  rcases absorb_eq_ok.mp absorbed with
    ⟨-, otherDuplicate, otherCanonical, kept, firstLoaded, secondLoaded, -, returned⟩
  cases firstLoaded.symm.trans duplicateLoaded
  cases secondLoaded.symm.trans canonicalLoaded
  have canonicalId_eq : canonical.id = canonicalId := holds.id.trans placeId
  refine ⟨place, row, holds, placeId, ?_⟩
  rcases written with ⟨takes, rfl⟩ | ⟨refused, rfl⟩
  · rcases returned with ⟨-, rfl, -⟩ | ⟨refused, -⟩
    · exact ⟨canonicalId_eq, rfl, holds.previousId, Or.inl ⟨takes, rfl⟩, rewrites⟩
    · exact absurd takes refused
  · rcases returned with ⟨takes, -⟩ | ⟨-, rfl, -⟩
    · exact absurd takes refused
    · exact ⟨canonicalId_eq, holds.previousId, rfl, Or.inr ⟨refused, holds⟩, rewrites⟩

/-- The record that absorbed another is found as it was returned, with its reference moved. Its row
was only written if it took over a local id. -/
theorem findById_of_absorb (unique : before.UniqueIds) {duplicateId canonicalId : String}
    {duplicate canonical result read : Message}
    (absorbed : before.absorb duplicateId canonicalId = .ok (result, after))
    (duplicateLoaded : before.load duplicateId = .ok duplicate)
    (canonicalLoaded : before.load canonicalId = .ok canonical) :
    after.findById result.id = .ok (some read) ↔
      (TakesAlias duplicate canonical → result.Storable) ∧ read =
        { result with previousId := result.previousId.map (heir duplicateId canonicalId) } := by
  rcases exists_returned_of_absorb unique absorbed duplicateLoaded canonicalLoaded with
    ⟨place, row, -, -, rfl, refers, -, written, rewrites⟩
  rw [findById_of_withId (rewrites.withId unique)]
  rcases written with ⟨takes, rfl⟩ | ⟨refused, holds⟩
  · rw [Row.renamePrevious_ofMessage, Row.toMessage_ofMessage, Message.storable_withPrevious,
      imp_iff_right takes]
  · have reads := Row.toMessage_eq_ok.mpr
      (Row.renamePrevious_holds duplicateId result.id row holds)
    rw [reads, Except.ok.injEq, Row.renamePrevious_previousId, ← refers,
      and_iff_right fun takes => absurd takes refused]
    exact eq_comm

/-! ## All changes -/

/-- The record that took a new id is found as it was returned, unless its reference was moved. It
becomes its own predecessor if it refers to one of the two ids, and no other record does. -/
structure ReplacedAsReturned (before after : Store) (oldId newId : String) (result : Message) :
    Prop where
  found : after.findById result.id = .ok (some result) ↔
    result.Storable ∧ (result.previousId = some oldId → newId = oldId)
  own : oldId ≠ newId → ∀ row ∈ before.rows, ¬row.IsOwnPrevious → ∀ later ∈ after.rows,
    later.id = heir oldId newId row.id → (later.IsOwnPrevious ↔
      row.id = oldId ∧ (result.previousId = some oldId ∨ result.previousId = some newId))

/-- The record that absorbed another one is found as it was returned, and does not become its own
predecessor, unless it refers to the other one. -/
structure AbsorbedAsReturned (before after : Store) (duplicateId canonicalId : String)
    (result : Message) : Prop where
  found : ∀ duplicate canonical, before.load duplicateId = .ok duplicate →
    before.load canonicalId = .ok canonical →
      (after.findById result.id = .ok (some result) ↔
        (TakesAlias duplicate canonical → result.Storable) ∧
          result.previousId ≠ some duplicateId)
  own : ∀ row ∈ before.rows, row.id ≠ duplicateId → ¬row.IsOwnPrevious → ∀ later ∈ after.rows,
    later.id = row.id → (later.IsOwnPrevious ↔
      row.id = canonicalId ∧ result.previousId = some duplicateId)

theorem replacedAsReturned (unique : before.UniqueIds) {patch : MessagePatch} {result : Message}
    (replaced : before.replaceId oldId newId patch = .ok (result, after)) :
    ReplacedAsReturned before after oldId newId result := by
  refine ⟨?_, ?_⟩
  · rw [findById_of_replaceId unique replaced, Message.eq_withPrevious_iff, eq_comm,
      map_heir_eq_self]
  · intro different row rowMem not_own later laterMem follows
    rcases exists_rewrites_of_replaceId replaced different with
      ⟨message, place, loaded, -, placeId, free, rewrites⟩
    rcases replaceId_eq_ok.mp replaced with ⟨patched, -, patchedLoaded, -, rfl, -, -⟩
    cases patchedLoaded.symm.trans loaded
    have moved : heir oldId newId row.id = newId ↔ row.id = oldId := by
      rw [heir]
      split
      · next same => simp [same]
      · next other => simp [other, free row rowMem]
    rw [rewrites.isOwnPrevious_iff unique rowMem laterMem follows not_own, moved]
    rfl

theorem absorbedAsReturned (unique : before.UniqueIds) {duplicateId canonicalId : String}
    {result : Message} (absorbed : before.absorb duplicateId canonicalId = .ok (result, after)) :
    AbsorbedAsReturned before after duplicateId canonicalId result := by
  rcases absorb_eq_ok.mp absorbed with
    ⟨different, duplicate, canonical, -, duplicateLoaded, canonicalLoaded, -⟩
  refine ⟨?_, ?_⟩
  · intro duplicate canonical duplicateLoaded canonicalLoaded
    rw [findById_of_absorb unique absorbed duplicateLoaded canonicalLoaded,
      Message.eq_withPrevious_iff, eq_comm, map_heir_eq_self]
    simp only [different.symm, imp_false]
  · intro row rowMem remains not_own later laterMem same
    rcases exists_returned_of_absorb unique absorbed duplicateLoaded canonicalLoaded with
      ⟨place, written, -, placeId, -, refers, same_reference, -, rewrites⟩
    have stays : heir duplicateId canonicalId row.id = row.id := if_neg remains
    rw [rewrites.isOwnPrevious_iff unique rowMem laterMem (same.trans stays.symm) not_own, stays,
      ← refers]
    refine and_congr_right fun here => or_iff_left fun own => not_own ?_
    cases unique.eq_of_id rowMem rewrites.mem (here.trans placeId.symm)
    rw [Row.IsOwnPrevious, here, ← same_reference, ← refers, own]

/-- A change returns the record as it is stored afterwards, unless its times cannot be stored or it
refers to the id that gives way, and exactly such a record can become its own predecessor. -/
theorem returned_as_stored_iff (unique : before.UniqueIds) :
    (∀ id patch result, before.update id patch = .ok (result, after) →
      (after.findById result.id = .ok (some result) ↔ result.Storable)) ∧
    (∀ oldId newId patch result, before.replaceId oldId newId patch = .ok (result, after) →
      ReplacedAsReturned before after oldId newId result) ∧
    ∀ duplicateId canonicalId result,
      before.absorb duplicateId canonicalId = .ok (result, after) →
        AbsorbedAsReturned before after duplicateId canonicalId result := by
  refine ⟨?_, ?_, ?_⟩
  · intro id patch result updated
    rw [findById_of_update unique updated, and_iff_left rfl]
  · intro oldId newId patch result replaced
    exact replacedAsReturned unique replaced
  · intro duplicateId canonicalId result absorbed
    exact absorbedAsReturned unique absorbed

theorem returned_as_stored_iff_selfReferring :
    (∃ result after, selfReferring.replaceId "l1" "m1" {} = .ok (result, after) ∧
      ReplacedAsReturned selfReferring after "l1" "m1" result) ∧
    ∃ result after, selfReferring.absorb "l1" "m2" = .ok (result, after) ∧
      AbsorbedAsReturned selfReferring after "l1" "m2" result := by
  have unique : selfReferring.UniqueIds := List.pairwise_pair.mpr (by decide)
  have replaces : (selfReferring.replaceId "l1" "m1" {}).toOption.isSome = true := by decide +kernel
  have absorbs : (selfReferring.absorb "l1" "m2").toOption.isSome = true := by decide +kernel
  rcases Option.isSome_iff_exists.mp replaces with ⟨⟨moved, replaced⟩, replaces⟩
  rcases Option.isSome_iff_exists.mp absorbs with ⟨⟨merged, left⟩, absorbs⟩
  refine ⟨⟨moved, replaced, except_eq_ok_of_toOption replaces, ?_⟩,
    merged, left, except_eq_ok_of_toOption absorbs, ?_⟩
  · exact (returned_as_stored_iff unique).2.1 "l1" "m1" {} moved (except_eq_ok_of_toOption replaces)
  · exact (returned_as_stored_iff unique).2.2 "l1" "m2" merged (except_eq_ok_of_toOption absorbs)

theorem selfReferring_legible : selfReferring.Legible := by
  intro row mem
  simp only [selfReferring, List.mem_cons, List.not_mem_nil, or_false] at mem
  rcases mem with rfl | rfl
  · exact ⟨_, Row.holds_ofMessage ⟨by decide +kernel, by decide +kernel⟩⟩
  · exact ⟨_, Row.holds_ofMessage ⟨by decide +kernel, by decide +kernel⟩⟩

/-- A record that refers to itself is returned with the id that it gave up, and one that refers to
the record that it absorbs becomes its own predecessor. -/
theorem not_returned_as_stored :
    (¬∀ (before after : Store) (oldId newId : String) (patch : MessagePatch) (result : Message),
      before.Legible → before.UniqueIds →
      (∀ time ∈ patch.updatedAt, 0 ≤ time.year ∧ time.year ≤ 9999) →
      before.replaceId oldId newId patch = .ok (result, after) →
        after.findById result.id = .ok (some result)) ∧
    ¬∀ (before after : Store) (duplicateId canonicalId : String) (result : Message),
      before.Legible → before.UniqueIds →
      before.absorb duplicateId canonicalId = .ok (result, after) →
        ∀ row ∈ before.rows, row.id = canonicalId → ¬row.IsOwnPrevious →
          ∀ later ∈ after.rows, later.id = canonicalId → ¬later.IsOwnPrevious := by
  have unique : selfReferring.UniqueIds := List.pairwise_pair.mpr (by decide)
  refine ⟨?_, ?_⟩
  · intro found
    have replaces : (selfReferring.replaceId "l1" "m1" {}).toOption.map (fun done =>
        decide ((done.2.findById done.1.id).toOption = some (some done.1))) = some false := by
      decide +kernel
    rcases exists_of_toOption_map replaces with ⟨⟨result, after⟩, replaced, differs⟩
    have same := found selfReferring after "l1" "m1" {} result selfReferring_legible unique
      (by simp) replaced
    exact of_decide_eq_false differs (congrArg Except.toOption same)
  · intro kept
    have own : ∃ row ∈ selfReferring.rows, row.id = "m2" ∧ ¬row.IsOwnPrevious := by decide +kernel
    have absorbs : (selfReferring.absorb "l1" "m2").toOption.map (fun done =>
        decide (∃ later ∈ done.2.rows, later.id = "m2" ∧ later.IsOwnPrevious)) = some true := by
      decide +kernel
    rcases own with ⟨row, mem, same, not_own⟩
    rcases exists_of_toOption_map absorbs with ⟨⟨result, after⟩, absorbed, became⟩
    rcases of_decide_eq_true became with ⟨later, laterMem, laterSame, laterOwn⟩
    exact kept selfReferring after "l1" "m2" result selfReferring_legible unique absorbed row mem
      same not_own later laterMem laterSame laterOwn

end Store

end MessageSync
