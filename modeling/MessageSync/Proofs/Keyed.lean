import Mathlib.Data.String.Basic
import MessageSync.Keyed

/-!
# Entries of text-keyed maps

Setting an entry keeps a list of entries in the order of its keys, so every change of a map keeps
its keys in order. What is found after a change is told for every key.
-/

namespace MessageSync

namespace Keyed

variable {α : Type} {key : String} {value : α} {entries : List (String × α)} {map : Keyed α}

/-! ## Setting entries -/

theorem mem_setEntry {entry : String × α} (mem : entry ∈ setEntry key value entries) :
    entry = (key, value) ∨ entry ∈ entries := by
  induction entries with
  | nil => simpa [setEntry] using mem
  | cons head rest ih =>
      rcases head with ⟨other, held⟩
      simp only [setEntry] at mem
      split_ifs at mem
      · simpa using mem
      · rcases List.mem_cons.mp mem with here | behind
        · exact Or.inl here
        · exact Or.inr (List.mem_cons_of_mem _ behind)
      · rcases List.mem_cons.mp mem with here | behind
        · exact Or.inr (by simp [here])
        · rcases ih behind with here | old
          · exact Or.inl here
          · exact Or.inr (List.mem_cons_of_mem _ old)

theorem length_setEntry_le : (setEntry key value entries).length ≤ entries.length + 1 := by
  induction entries with
  | nil => simp [setEntry]
  | cons head rest ih =>
      simp only [setEntry]
      split_ifs
      · simp
      · simp
      · simpa using ih

/-- Entries stay in ascending order when one is set. -/
theorem pairwise_setEntry (sorted : entries.Pairwise fun first second => first.1 < second.1) :
    (setEntry key value entries).Pairwise fun first second => first.1 < second.1 := by
  induction entries with
  | nil => simp [setEntry]
  | cons head rest ih =>
      rcases head with ⟨other, held⟩
      rw [List.pairwise_cons] at sorted
      simp only [setEntry]
      split_ifs with before same
      · refine List.pairwise_cons.mpr ⟨?_, List.pairwise_cons.mpr sorted⟩
        intro entry mem
        rcases List.mem_cons.mp mem with rfl | behind
        · exact before
        · exact lt_trans before (sorted.1 entry behind)
      · subst same
        exact List.pairwise_cons.mpr ⟨sorted.1, sorted.2⟩
      · refine List.pairwise_cons.mpr ⟨?_, ih sorted.2⟩
        intro entry mem
        rcases mem_setEntry mem with rfl | behind
        · exact lt_of_le_of_ne (not_lt.mp before) (Ne.symm same)
        · exact sorted.1 entry behind

/-- A key that comes after all others is set at the end. -/
theorem setEntry_last (last : ∀ entry ∈ entries, entry.1 < key) :
    setEntry key value entries = entries ++ [(key, value)] := by
  induction entries with
  | nil => rfl
  | cons head rest ih =>
      rcases head with ⟨other, held⟩
      have before : other < key := last (other, held) (by simp)
      rw [setEntry, if_neg (not_lt.mpr before.le), if_neg before.ne',
        ih fun entry mem => last entry (List.mem_cons_of_mem _ mem)]
      rfl

/-- Setting entries in ascending order of their keys gives those entries. -/
theorem foldl_setEntry_sorted (done : List (String × α))
    (sorted : (done ++ entries).Pairwise fun first second => first.1 < second.1) :
    entries.foldl (fun sorted (key, value) => setEntry key value sorted) done =
      done ++ entries := by
  induction entries generalizing done with
  | nil => simp
  | cons head rest ih =>
      rcases head with ⟨key, value⟩
      have last : ∀ entry ∈ done, entry.1 < key := by
        intro entry mem
        exact (List.pairwise_append.mp sorted).2.2 entry mem (key, value) (by simp)
      rw [List.foldl_cons]
      simp only [setEntry_last last]
      rw [ih, List.append_assoc, List.singleton_append]
      rw [List.append_assoc, List.singleton_append]
      exact sorted

/-- Setting entries keeps the order, adds at most as many entries, and only those. -/
theorem foldl_setEntry (entries done : List (String × α))
    (sorted : done.Pairwise fun first second => first.1 < second.1) :
    let result := entries.foldl (fun sorted (key, value) => setEntry key value sorted) done
    (result.Pairwise fun first second => first.1 < second.1) ∧
      result.length ≤ done.length + entries.length ∧
      ∀ entry ∈ result, entry ∈ done ∨ entry ∈ entries := by
  induction entries generalizing done with
  | nil => exact ⟨sorted, Nat.le_refl _, fun entry mem => Or.inl mem⟩
  | cons head rest ih =>
      rcases head with ⟨key, value⟩
      rcases ih _ (pairwise_setEntry sorted) with ⟨ascending, few, members⟩
      refine ⟨ascending, ?_, ?_⟩
      · have one : (setEntry key value done).length ≤ done.length + 1 := length_setEntry_le
        rw [List.length_cons]
        exact few.trans (by omega)
      · intro entry mem
        rcases members entry mem with inDone | behind
        · rcases mem_setEntry inDone with rfl | old
          · exact Or.inr (by simp)
          · exact Or.inl old
        · exact Or.inr (List.mem_cons_of_mem _ behind)

theorem nodup_keys (sorted : entries.Pairwise fun first second => first.1 < second.1) :
    (entries.map Prod.fst).Nodup := by
  rw [List.nodup_iff_pairwise_ne, List.pairwise_map]
  exact sorted.imp fun before => before.ne

/-! ## Changing values -/

theorem get?_change (key other : String) (f : α → α) :
    (map.change key f).get? other = if other = key then (map.get? key).map f else map.get? other := by
  simp only [change]
  cases found : map.get? key with
  | some value => simp
  | none =>
      by_cases same : other = key
      · simp [same, found]
      · simp [same]

theorem lookup_map {β : Type} (entries : List (String × α)) (key : String) (f : α → β) :
    (entries.map fun (key, value) => (key, f value)).lookup key = (entries.lookup key).map f := by
  induction entries with
  | nil => rfl
  | cons entry rest mapped =>
      rcases entry with ⟨first, value⟩
      rw [List.map_cons, lookup_cons_eq, lookup_cons_eq, mapped]
      by_cases here : key = first
      · rw [if_pos here, if_pos here, Option.map_some]
      · rw [if_neg here, if_neg here]

theorem get?_mapValues (key : String) (f : α → α) :
    (map.mapValues f).get? key = (map.get? key).map f :=
  lookup_map map.entries key f

theorem lookup_eq_none_of_not_mem (absent : key ∉ entries.map Prod.fst) :
    entries.lookup key = none := by
  rw [List.lookup_eq_none_iff]
  intro entry mem
  rw [bne_iff_ne]
  rintro rfl
  exact absent (List.mem_map_of_mem mem)

/-- Setting entries with different keys gives each key its value. -/
theorem lookup_foldl_setEntry (distinct : (entries.map Prod.fst).Nodup)
    (done : List (String × α)) (key : String) :
    (entries.foldl (fun sorted (key, value) => setEntry key value sorted) done).lookup key =
      (entries.lookup key).or (done.lookup key) := by
  induction entries generalizing done with
  | nil => rfl
  | cons entry rest ih =>
      rcases entry with ⟨first, value⟩
      rw [List.map_cons, List.nodup_cons] at distinct
      rw [List.foldl_cons, ih distinct.2, lookup_setEntry, lookup_cons_eq]
      by_cases here : key = first
      · subst here
        rw [if_pos rfl, if_pos rfl, lookup_eq_none_of_not_mem distinct.1, Option.none_or,
          Option.some_or]
      · rw [if_neg here, if_neg here]

theorem mem_of_lookup (found : entries.lookup key = some value) : (key, value) ∈ entries := by
  rcases List.lookup_eq_some_iff.mp found with ⟨before, after, rfl, -⟩
  simp

theorem lookup_of_mem (distinct : (entries.map Prod.fst).Nodup) (mem : (key, value) ∈ entries) :
    entries.lookup key = some value := by
  induction entries with
  | nil => cases mem
  | cons entry rest found =>
      rw [List.map_cons, List.nodup_cons] at distinct
      rw [lookup_cons_eq]
      rcases List.mem_cons.mp mem with rfl | behind
      · rw [if_pos rfl]
      · have different : key ≠ entry.1 := fun same => distinct.1 (same ▸ List.mem_map_of_mem behind)
        rw [if_neg different, found distinct.2 behind]

theorem mem_entries_of_get? (found : map.get? key = some value) : (key, value) ∈ map.entries :=
  mem_of_lookup found

theorem mem_keysThat_of_get? {key : String} {value : α} {test : α → Bool}
    (found : map.get? key = some value) (passes : test value = true) : key ∈ map.keysThat test := by
  rw [keysThat, List.mem_map]
  exact ⟨(key, value), List.mem_filter.mpr ⟨mem_entries_of_get? found, passes⟩, rfl⟩

/-! ## Keys -/

theorem contains_iff : map.contains key = true ↔ key ∈ map.keys := by
  rw [contains, Option.isSome_iff_ne_none, ne_eq, get?, List.lookup_eq_none_iff]
  simp [keys]

theorem contains_set (other : String) :
    (map.set key value).contains other = (other == key || map.contains other) := by
  by_cases same : other = key <;> simp [contains, same]

theorem contains_erase (other : String) :
    (map.erase key).contains other = (other != key && map.contains other) := by
  by_cases same : other = key <;> simp [contains, same]

theorem not_contains_erase {other : String} (absent : map.contains other = false) :
    (map.erase key).contains other = false := by
  rw [contains_erase, absent, Bool.and_false]

/-! ## The order of keys -/

/-- The keys are in ascending order. -/
def Sorted (map : Keyed α) : Prop :=
  map.entries.Pairwise fun first second => first.1 < second.1

theorem sorted_empty : (empty : Keyed α).Sorted := .nil

theorem Sorted.set (sorted : map.Sorted) (key : String) (value : α) : (map.set key value).Sorted :=
  pairwise_setEntry sorted

theorem Sorted.erase (sorted : map.Sorted) (key : String) : (map.erase key).Sorted :=
  List.Pairwise.filter _ sorted

theorem Sorted.change (sorted : map.Sorted) (key : String) (f : α → α) :
    (map.change key f).Sorted := by
  simp only [Keyed.change]
  split
  · exact sorted.set _ _
  · exact sorted

theorem Sorted.mapValues (sorted : map.Sorted) (f : α → α) : (map.mapValues f).Sorted :=
  List.pairwise_map.mpr sorted

/-- In a sorted map, every entry is found by its key. -/
theorem Sorted.get?_of_mem (sorted : map.Sorted) (mem : (key, value) ∈ map.entries) :
    map.get? key = some value := by
  exact lookup_of_mem (nodup_keys sorted) mem

theorem Sorted.mem_values_iff (sorted : map.Sorted) :
    value ∈ map.values ↔ ∃ key, map.get? key = some value := by
  simp only [values, List.mem_map]
  constructor
  · rintro ⟨⟨key, value⟩, mem, rfl⟩
    exact ⟨key, sorted.get?_of_mem mem⟩
  · rintro ⟨key, found⟩
    exact ⟨(key, value), mem_entries_of_get? found, rfl⟩

theorem Sorted.keep (sorted : map.Sorted) (test : α → Bool) : (map.keep test).Sorted :=
  List.Pairwise.filter _ sorted

/-- In a sorted map, what is kept is found as before, and nothing else. -/
theorem Sorted.get?_keep (sorted : map.Sorted) (test : α → Bool) (key : String) :
    (map.keep test).get? key = (map.get? key).filter test := by
  have kept (value : α) : (map.keep test).get? key = some value ↔
      (map.get? key).filter test = some value := by
    rw [Option.filter_eq_some_iff]
    constructor
    · intro found
      rcases List.mem_filter.mp (mem_entries_of_get? found) with ⟨mem, passes⟩
      exact ⟨sorted.get?_of_mem mem, passes⟩
    · rintro ⟨found, passes⟩
      exact (sorted.keep test).get?_of_mem
        (List.mem_filter.mpr ⟨mem_entries_of_get? found, passes⟩)
  exact Option.ext kept

/-- Setting an entry of a sorted map to the value that it has does nothing. -/
theorem Sorted.set_of_get? (sorted : map.Sorted) (found : map.get? key = some value) :
    map.set key value = map := by
  rcases map with ⟨entries⟩
  refine congrArg Keyed.mk ?_
  induction entries with
  | nil => cases found
  | cons entry rest same =>
      rcases List.pairwise_cons.mp sorted with ⟨first, restSorted⟩
      simp only [get?, lookup_cons_eq] at found
      change (if key < entry.1 then _ else if key = entry.1 then _ else _) = _
      split at found
      · next here =>
          cases found
          rw [here, if_neg (lt_irrefl entry.1), if_pos rfl]
      · next different =>
          have held : (⟨rest⟩ : Keyed α).get? key = some value := found
          have behind : entry.1 < key := first _ (mem_entries_of_get? held)
          rw [if_neg (not_lt.mpr behind.le), if_neg different, same restSorted held]

/-- A change that leaves the value of its key as it is leaves a sorted map as it is. -/
theorem Sorted.change_eq_self (sorted : map.Sorted) {f : α → α}
    (same : ∀ value, map.get? key = some value → f value = value) : map.change key f = map := by
  simp only [Keyed.change]
  split
  · next value found => rw [same value found, sorted.set_of_get? found]
  · rfl

theorem Sorted.get?_of_mem_keysThat (sorted : map.Sorted) {test : α → Bool}
    (mem : key ∈ map.keysThat test) : ∃ value, map.get? key = some value ∧ test value = true := by
  simp only [keysThat, List.mem_map, List.mem_filter] at mem
  rcases mem with ⟨⟨_, value⟩, ⟨mem, passes⟩, rfl⟩
  exact ⟨value, sorted.get?_of_mem mem, passes⟩

theorem Sorted.mem_keysThat_iff (sorted : map.Sorted) {test : α → Bool} :
    key ∈ map.keysThat test ↔ ∃ value, map.get? key = some value ∧ test value = true := by
  constructor
  · exact sorted.get?_of_mem_keysThat
  · rintro ⟨value, found, passes⟩
    exact mem_keysThat_of_get? found passes

theorem Sorted.nodup_keysThat (sorted : map.Sorted) (test : α → Bool) :
    (map.keysThat test).Nodup := by
  exact nodup_keys (List.Pairwise.filter _ sorted)

/-! ## Entries in any order -/

theorem erase_of_absent (absent : map.contains key = false) : map.erase key = map := by
  refine congrArg Keyed.mk (List.filter_eq_self.mpr ?_)
  intro entry mem
  rw [bne_iff_ne]
  rintro rfl
  rw [← Bool.not_eq_true, contains_iff] at absent
  exact absent (List.mem_map_of_mem mem)

theorem erase_set : (map.set key value).erase key = map.erase key := by
  rcases map with ⟨entries⟩
  refine congrArg Keyed.mk ?_
  simp only [set]
  induction entries with
  | nil => simp [setEntry]
  | cons head rest same =>
      simp only [setEntry]
      split_ifs with before here
      · simp
      · simp [here]
      · simp only [List.filter_cons, same]

/-- A sorted map has the entry of a key that is found, and those that are left when it is erased. -/
theorem Sorted.perm_erase (sorted : map.Sorted) (found : map.get? key = some value) :
    map.entries.Perm ((key, value) :: (map.erase key).entries) := by
  rcases map with ⟨entries⟩
  rcases List.mem_iff_append.mp (mem_entries_of_get? found) with ⟨before, after, rfl⟩
  have distinct := nodup_keys sorted
  simp only [List.map_append, List.map_cons, List.nodup_append, List.nodup_cons] at distinct
  have stays : ∀ part : List (String × α), key ∉ part.map Prod.fst →
      part.filter (fun entry => entry.1 != key) = part := by
    intro part absent
    refine List.filter_eq_self.mpr fun entry mem => ?_
    rw [bne_iff_ne]
    rintro rfl
    exact absent (List.mem_map_of_mem mem)
  have beforeStays := stays before fun mem => distinct.2.2 key mem key List.mem_cons_self rfl
  have afterStays := stays after distinct.2.1.1
  simp only [Keyed.erase, List.filter_append, List.filter_cons, bne_self_eq_false, Bool.false_eq_true,
    if_false, beforeStays, afterStays]
  exact List.perm_middle

/-- Setting an entry of a sorted map leaves the others as they are. -/
theorem Sorted.perm_set (sorted : map.Sorted) :
    (map.set key value).entries.Perm ((key, value) :: (map.erase key).entries) := by
  have found : (map.set key value).get? key = some value := by simp
  have split := (sorted.set key value).perm_erase found
  rwa [erase_set] at split

theorem Sorted.perm_values_erase (sorted : map.Sorted) (found : map.get? key = some value) :
    map.values.Perm (value :: (map.erase key).values) :=
  (sorted.perm_erase found).map Prod.snd

theorem Sorted.perm_values_set (sorted : map.Sorted) (key : String) (value : α) :
    (map.set key value).values.Perm (value :: (map.erase key).values) :=
  sorted.perm_set.map Prod.snd

end Keyed

namespace TextSet

theorem contains_foldl_insert (texts : List String) (set : TextSet) (text : String) :
    (texts.foldl insert set).contains text = (texts.contains text || set.contains text) := by
  induction texts generalizing set with
  | nil => rfl
  | cons first texts found =>
      rw [List.foldl_cons, found, insert, Keyed.contains_set, List.contains_cons, Bool.or_left_comm,
        Bool.or_assoc]

theorem sorted_foldl_insert (texts : List String) {set : TextSet} (sorted : set.Sorted) :
    (texts.foldl insert set).Sorted := by
  induction texts generalizing set with
  | nil => exact sorted
  | cons first texts stays => exact stays (sorted.set first ())

end TextSet

end MessageSync
