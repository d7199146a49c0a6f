/-!
# Computations that succeed

When a computation that may fail succeeds, told by its parts.
-/

namespace MessageSync

variable {ε α β : Type}

/-- A computation that goes on after another one succeeds only if both parts do. -/
theorem except_bind_eq_ok {first : Except ε α} {next : α → Except ε β} {result : β} :
    (first >>= next) = .ok result ↔ ∃ value, first = .ok value ∧ next value = .ok result := by
  cases first with
  | error error => simp [bind, Except.bind]
  | ok value => simp [bind, Except.bind]

theorem except_map_eq_ok {first : Except ε α} {f : α → β} {result : β} :
    first.map f = .ok result ↔ ∃ value, first = .ok value ∧ f value = result := by
  cases first <;> simp [Except.map]

theorem except_mapError_eq_ok {δ : Type} {first : Except ε α} {f : ε → δ} {result : α} :
    first.mapError f = .ok result ↔ first = .ok result := by
  cases first with
  | error reason =>
      constructor
      · rintro ⟨⟩
      · rintro ⟨⟩
  | ok value =>
      constructor
      · rintro ⟨⟩
        rfl
      · rintro ⟨⟩
        rfl

theorem except_eq_ok_of_toOption {result : Except ε α} {value : α}
    (gives : result.toOption = some value) : result = .ok value := by
  cases result with
  | error error => cases gives
  | ok given =>
      cases gives
      rfl

theorem exists_of_toOption_map {result : Except ε α} {f : α → β} {given : β}
    (gives : result.toOption.map f = some given) : ∃ value, result = .ok value ∧ f value = given := by
  rcases Option.map_eq_some_iff.mp gives with ⟨value, held, same⟩
  exact ⟨value, except_eq_ok_of_toOption held, same⟩

theorem mapM_cons_eq_ok {read : α → Except ε β} {item : α} {items : List α} {values : List β} :
    (item :: items).mapM read = .ok values ↔ ∃ value others,
      read item = .ok value ∧ items.mapM read = .ok others ∧ values = value :: others := by
  rw [List.mapM_cons, except_bind_eq_ok]
  constructor
  · rintro ⟨value, itemRead, rest⟩
    rw [except_bind_eq_ok] at rest
    rcases rest with ⟨others, othersRead, done⟩
    cases done
    exact ⟨value, others, itemRead, othersRead, rfl⟩
  · rintro ⟨value, others, itemRead, othersRead, rfl⟩
    exact ⟨value, itemRead, by rw [othersRead]; rfl⟩

/-- What is read from a list is read from its items. -/
theorem mem_of_mapM_eq_ok {read : α → Except ε β} {items : List α} {values : List β} {value : β}
    (allRead : items.mapM read = .ok values) (mem : value ∈ values) :
    ∃ item ∈ items, read item = .ok value := by
  induction items generalizing values with
  | nil =>
      cases allRead
      cases mem
  | cons item items ih =>
      rcases mapM_cons_eq_ok.mp allRead with ⟨first, others, firstRead, othersRead, rfl⟩
      rcases List.mem_cons.mp mem with rfl | otherMem
      · exact ⟨item, by simp, firstRead⟩
      · rcases ih othersRead otherMem with ⟨other, mem, otherRead⟩
        exact ⟨other, by simp [mem], otherRead⟩

/-- The items of a list that is read are read, and what they read as is in the result. -/
theorem exists_mem_of_mapM_eq_ok {read : α → Except ε β} {items : List α} {values : List β}
    {item : α} (allRead : items.mapM read = .ok values) (mem : item ∈ items) :
    ∃ value ∈ values, read item = .ok value := by
  induction items generalizing values with
  | nil => cases mem
  | cons head items ih =>
      rcases mapM_cons_eq_ok.mp allRead with ⟨first, others, firstRead, othersRead, rfl⟩
      rcases List.mem_cons.mp mem with rfl | later
      · exact ⟨first, by simp, firstRead⟩
      · rcases ih othersRead later with ⟨value, among, itemRead⟩
        exact ⟨value, by simp [among], itemRead⟩

/-- What is read from the items is the list of the values, in the same order. -/
theorem map_ok_of_mapM_eq_ok {read : α → Except ε β} {items : List α} {values : List β}
    (allRead : items.mapM read = .ok values) : values.map Except.ok = items.map read := by
  induction items generalizing values with
  | nil =>
      cases allRead
      rfl
  | cons item items ih =>
      rcases mapM_cons_eq_ok.mp allRead with ⟨first, others, firstRead, othersRead, rfl⟩
      rw [List.map_cons, List.map_cons, ih othersRead, firstRead]

/-- Values are in an order if the items that they are read from are. -/
theorem pairwise_of_mapM_eq_ok {read : α → Except ε β} {items : List α} {values : List β}
    {before : β → β → Prop} (allRead : items.mapM read = .ok values)
    (sorted : items.Pairwise fun first second => ∀ value other,
      read first = .ok value → read second = .ok other → before value other) :
    values.Pairwise before := by
  induction items generalizing values with
  | nil =>
      cases allRead
      exact .nil
  | cons item items ih =>
      rcases mapM_cons_eq_ok.mp allRead with ⟨first, others, firstRead, othersRead, rfl⟩
      rw [List.pairwise_cons] at sorted ⊢
      refine ⟨?_, ih othersRead sorted.2⟩
      intro other mem
      rcases mem_of_mapM_eq_ok othersRead mem with ⟨later, laterMem, laterRead⟩
      exact sorted.1 later laterMem first other firstRead laterRead

theorem length_of_mapM_eq_ok {read : α → Except ε β} {items : List α} {values : List β}
    (allRead : items.mapM read = .ok values) : values.length = items.length := by
  induction items generalizing values with
  | nil =>
      cases allRead
      rfl
  | cons item items ih =>
      rcases mapM_cons_eq_ok.mp allRead with ⟨first, others, firstRead, othersRead, rfl⟩
      rw [List.length_cons, List.length_cons, ih othersRead]

/-- What is read from items that are written as what they read as is written as the items. -/
theorem map_of_mapM_eq_ok {read : α → Except ε β} {write : β → α} {items : List α}
    {values : List β} (allRead : items.mapM read = .ok values)
    (again : ∀ item ∈ items, ∀ value, read item = .ok value → write value = item) :
    values.map write = items := by
  induction items generalizing values with
  | nil =>
      cases allRead
      rfl
  | cons item items ih =>
      rcases mapM_cons_eq_ok.mp allRead with ⟨first, others, firstRead, othersRead, rfl⟩
      rw [List.map_cons, again item (by simp) first firstRead,
        ih othersRead fun other mem => again other (by simp [mem])]

/-- A list whose items can all be read can be read. -/
theorem exists_mapM_eq_ok {read : α → Except ε β} {items : List α}
    (readable : ∀ item ∈ items, ∃ value, read item = .ok value) :
    ∃ values, items.mapM read = .ok values := by
  induction items with
  | nil => exact ⟨[], rfl⟩
  | cons item items ih =>
      rcases readable item (by simp) with ⟨value, itemRead⟩
      rcases ih fun other mem => readable other (by simp [mem]) with ⟨values, othersRead⟩
      exact ⟨value :: values, mapM_cons_eq_ok.mpr ⟨value, values, itemRead, othersRead, rfl⟩⟩

/-- The first accepted value is that of an item before which there is none with an accepted value. -/
theorem find?_of_mapM_eq_ok {read : α → Except ε β} {items : List α} {values : List β}
    {test : β → Bool} {item : α} {value : β} (allRead : items.mapM read = .ok values)
    (mem : item ∈ items) (itemRead : read item = .ok value) (accepted : test value = true)
    (first : items.Pairwise fun earlier later => later = item → ∀ other,
      read earlier = .ok other → test other = true → earlier = item) :
    values.find? test = some value := by
  induction items generalizing values with
  | nil => cases mem
  | cons head items ih =>
      rcases mapM_cons_eq_ok.mp allRead with ⟨headValue, others, headRead, othersRead, rfl⟩
      rw [List.pairwise_cons] at first
      by_cases headAccepted : test headValue = true
      · have here : head = item := by
          rcases List.mem_cons.mp mem with same | later
          · exact same.symm
          · exact first.1 item later rfl headValue headRead headAccepted
        rw [here, itemRead] at headRead
        cases headRead
        exact List.find?_cons_of_pos accepted
      · rw [List.find?_cons_of_neg headAccepted]
        rcases List.mem_cons.mp mem with rfl | later
        · rw [itemRead] at headRead
          cases headRead
          exact absurd accepted headAccepted
        · exact ih othersRead later first.2

end MessageSync
