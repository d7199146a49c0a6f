import Mathlib.Data.Finset.Card
import MessageSync.Wire.Bodies

/-!
# Results that count

Of the results in the answer to a sync request, the first for each submitted record counts. There
are as many of these as there are submitted records with results, and as many of them say that there
is a conflict as there are records whose first result says so.
-/

namespace MessageSync

namespace SyncResult

/-- The record of a result, as it is merged into the log. -/
def record (result : SyncResult) : Message :=
  result.message.toMessage result.localId
    (match result.status with
      | .synced => .synced
      | .conflict => .conflict)

/-- The result is for a submitted record, and none of the earlier results of the same answer is for
the same one. -/
def Counts (submitted : List String) (earlier : List SyncResult) (result : SyncResult) : Prop :=
  result.localId ∈ submitted ∧ ∀ other ∈ earlier, other.localId ≠ result.localId

instance (submitted : List String) (earlier : List SyncResult) (result : SyncResult) :
    Decidable (result.Counts submitted earlier) :=
  inferInstanceAs (Decidable (_ ∧ _))

/-- The results that count, if the given ones came before them in the answer. -/
def counting (submitted : List String) : List SyncResult → List SyncResult → List SyncResult
  | _, [] => []
  | earlier, result :: rest =>
    if result.Counts submitted earlier then result :: counting submitted (earlier ++ [result]) rest
    else counting submitted (earlier ++ [result]) rest

variable {submitted : List String} {earlier results : List SyncResult} {result : SyncResult}

/-- A result that counts is the first for its record. -/
theorem first_of_mem_counting (mem : result ∈ counting submitted earlier results) :
    result.Counts submitted earlier ∧
      results.find? (fun other => other.localId = result.localId) = some result := by
  induction results generalizing earlier with
  | nil => cases mem
  | cons head rest ih =>
      simp only [counting] at mem
      have later (mem : result ∈ counting submitted (earlier ++ [head]) rest) :
          result.Counts submitted earlier ∧
            (head :: rest).find? (fun other => other.localId = result.localId) = some result := by
        rcases ih mem with ⟨⟨wasSubmitted, new⟩, first⟩
        have different : head.localId ≠ result.localId := new head (by simp)
        refine ⟨⟨wasSubmitted, fun other otherMem => new other (by simp [otherMem])⟩, ?_⟩
        rw [List.find?_cons_of_neg (by simpa using different), first]
      split at mem
      · next counts =>
          rcases List.mem_cons.mp mem with rfl | mem
          · exact ⟨counts, by simp⟩
          · exact later mem
      · exact later mem

/-- Of the results for a submitted record that has none so far, one counts. -/
theorem exists_mem_counting (mem : result ∈ results) (counts : result.Counts submitted earlier) :
    ∃ first ∈ counting submitted earlier results, first.localId = result.localId := by
  induction results generalizing earlier with
  | nil => cases mem
  | cons head rest ih =>
      simp only [counting]
      by_cases same : head.localId = result.localId
      · have headCounts : head.Counts submitted earlier := by
          rw [Counts, same]
          exact counts
        rw [if_pos headCounts]
        exact ⟨head, List.mem_cons_self, same⟩
      · have still : result.Counts submitted (earlier ++ [head]) := by
          refine ⟨counts.1, fun other otherMem => ?_⟩
          rcases List.mem_append.mp otherMem with old | new
          · exact counts.2 other old
          · rw [List.mem_singleton.mp new]
            exact same
        rcases List.mem_cons.mp mem with rfl | mem
        · exact absurd rfl same
        · rcases ih mem still with ⟨first, firstMem, firstSame⟩
          split
          · exact ⟨first, List.mem_cons_of_mem _ firstMem, firstSame⟩
          · exact ⟨first, firstMem, firstSame⟩

/-- No two results that count are for the same record. -/
theorem nodup_counting : ((counting submitted earlier results).map localId).Nodup := by
  induction results generalizing earlier with
  | nil => exact .nil
  | cons head rest ih =>
      simp only [counting]
      split
      · rw [List.map_cons, List.nodup_cons]
        refine ⟨fun mem => ?_, ih⟩
        rcases List.mem_map.mp mem with ⟨other, otherMem, same⟩
        exact (first_of_mem_counting otherMem).1.2 head (by simp) same.symm
      · exact ih

example :
    (counting ["a", "b"] [] [⟨"a", .synced, default, none⟩, ⟨"other", .synced, default, none⟩,
      ⟨"a", .conflict, default, none⟩, ⟨"b", .conflict, default, none⟩]).map localId =
        ["a", "b"] := by
  decide

/-- The records that had a result are the submitted ones among those of the earlier results. -/
def Agree (submitted applied : List String) (earlier : List SyncResult) : Prop :=
  ∀ localId ∈ submitted, localId ∈ applied ↔ ∃ other ∈ earlier, other.localId = localId

variable {applied : List String}

theorem agree_nil : Agree submitted [] [] := by
  simp [Agree]

theorem Agree.counts_iff (agree : Agree submitted applied earlier) :
    result.Counts submitted earlier ↔
      (!submitted.contains result.localId || applied.contains result.localId) = false := by
  rw [Bool.or_eq_false_iff, Bool.not_eq_false', List.contains_iff_mem, ← Bool.not_eq_true,
    List.contains_iff_mem]
  refine and_congr_right fun wasSubmitted => ?_
  rw [agree _ wasSubmitted]
  push Not
  rfl

theorem Agree.counted (agree : Agree submitted applied earlier) :
    Agree submitted (result.localId :: applied) (earlier ++ [result]) := by
  intro localId wasSubmitted
  have before := agree localId wasSubmitted
  constructor
  · intro mem
    rcases List.mem_cons.mp mem with rfl | mem
    · exact ⟨result, by simp, rfl⟩
    · rcases before.mp mem with ⟨other, otherMem, same⟩
      exact ⟨other, List.mem_append_left _ otherMem, same⟩
  · rintro ⟨other, mem, same⟩
    rcases List.mem_append.mp mem with old | new
    · exact List.mem_cons_of_mem _ (before.mpr ⟨other, old, same⟩)
    · rw [← same, List.mem_singleton.mp new]
      exact List.mem_cons_self

theorem Agree.passed (agree : Agree submitted applied earlier)
    (passed : ¬result.Counts submitted earlier) :
    Agree submitted applied (earlier ++ [result]) := by
  intro localId wasSubmitted
  have before := agree localId wasSubmitted
  constructor
  · intro mem
    rcases before.mp mem with ⟨other, otherMem, same⟩
    exact ⟨other, List.mem_append_left _ otherMem, same⟩
  · rintro ⟨other, mem, same⟩
    rcases List.mem_append.mp mem with old | new
    · exact before.mpr ⟨other, old, same⟩
    · -- A result for a submitted record that does not count has an earlier one.
      obtain rfl := List.mem_singleton.mp new
      subst same
      by_contra missing
      exact passed ⟨wasSubmitted, fun earlierOne earlierMem same =>
        missing (before.mpr ⟨earlierOne, earlierMem, same⟩)⟩

/-- Every result says either that the record is synced or that there is a conflict. -/
theorem length_eq_add (results : List SyncResult) :
    results.length = results.countP (·.status = .synced) + results.countP (·.status = .conflict) := by
  rw [results.length_eq_countP_add_countP (·.status = .synced)]
  congr 1
  refine List.countP_congr fun result _ => ?_
  cases result.status <;> simp

end SyncResult

namespace SyncResponse

/-- The submitted records that the answer has results for. -/
def answered (response : SyncResponse) (submitted : List String) : Finset String :=
  (response.results.map SyncResult.localId).toFinset.filter (· ∈ submitted)

/-- The first result for the record says that the server has another version of it. -/
def Conflicts (response : SyncResponse) (localId : String) : Prop :=
  (response.results.find? fun result => result.localId = localId).map SyncResult.status =
    some .conflict

instance (response : SyncResponse) : DecidablePred response.Conflicts :=
  fun _ => inferInstanceAs (Decidable (_ = _))

variable {response : SyncResponse} {submitted : List String}

theorem mem_answered {localId : String} :
    localId ∈ response.answered submitted ↔
      localId ∈ submitted ∧ ∃ result ∈ response.results, result.localId = localId := by
  simp only [answered, Finset.mem_filter, List.mem_toFinset, List.mem_map]
  exact and_comm

theorem toFinset_counting :
    ((SyncResult.counting submitted [] response.results).map SyncResult.localId).toFinset =
      response.answered submitted := by
  ext localId
  rw [List.mem_toFinset, List.mem_map, mem_answered]
  constructor
  · rintro ⟨result, mem, rfl⟩
    rcases SyncResult.first_of_mem_counting mem with ⟨⟨wasSubmitted, -⟩, first⟩
    exact ⟨wasSubmitted, result, List.mem_of_find?_eq_some first, rfl⟩
  · rintro ⟨wasSubmitted, result, mem, rfl⟩
    exact SyncResult.exists_mem_counting mem ⟨wasSubmitted, by simp⟩

/-- As many results count as there are submitted records with results. -/
theorem length_counting :
    (SyncResult.counting submitted [] response.results).length =
      (response.answered submitted).card := by
  rw [← toFinset_counting, List.toFinset_card_of_nodup SyncResult.nodup_counting, List.length_map]

/-- A result that counts says that there is a conflict exactly if it is the first that says so. -/
theorem conflicts_iff_of_mem_counting {result : SyncResult}
    (mem : result ∈ SyncResult.counting submitted [] response.results) :
    response.Conflicts result.localId ↔ result.status = .conflict := by
  have first := (SyncResult.first_of_mem_counting mem).2
  simp [Conflicts, first]

/-- As many of the results that count say that there is a conflict as there are records whose first
result says so. -/
theorem countP_counting_conflict :
    (SyncResult.counting submitted [] response.results).countP (·.status = .conflict) =
      ((response.answered submitted).filter response.Conflicts).card := by
  have kept : (response.answered submitted).filter response.Conflicts =
      (((SyncResult.counting submitted [] response.results).map SyncResult.localId).filter
        (response.Conflicts ·)).toFinset := by
    simp only [← toFinset_counting, List.toFinset_filter, decide_eq_true_eq]
  rw [kept, List.toFinset_card_of_nodup (SyncResult.nodup_counting.filter _),
    ← List.countP_eq_length_filter, List.countP_map]
  refine List.countP_congr fun result mem => ?_
  simpa using (conflicts_iff_of_mem_counting mem).symm

end SyncResponse

end MessageSync
