import TagQuery.Text.NameSet

/-!
# Sets and maps of names

The names of a set are listed in order, so that a set is built again from its list
(`ofList_toList`).

A map is known by the values of its names. `get?_eq_some_iff` reads a value off the listed entries,
which is a statement because no name is listed twice; `mapValues` and `traverse` keep the names and
act on each value by itself. A traversal that fails does so at the least name whose value fails
(`traverse_eq_error_iff`).
-/

namespace TagQuery

namespace NameSet

theorem ext {first second : NameSet} (same : first.toList = second.toList) : first = second := by
  cases first
  cases second
  cases same
  rfl

theorem insertInto_of_lt {name : Text} {names : List Text} (greatest : ∀ other ∈ names, other < name) :
    insertInto name names = names ++ [name] := by
  induction names with
  | nil => rfl
  | cons other rest ih =>
    obtain ⟨before, later⟩ := List.forall_mem_cons.mp greatest
    rw [insertInto, if_neg (List.lt_asymm before), if_pos before, ih later]
    rfl

theorem toList_foldl_insert {names : List Text} {set : NameSet}
    (sorted : (set.toList ++ names).Pairwise (· < ·)) :
    (names.foldl insert set).toList = set.toList ++ names := by
  induction names generalizing set with
  | nil => exact (List.append_nil _).symm
  | cons name rest ih =>
    have greatest : ∀ other ∈ set.toList, other < name := fun other member =>
      (List.pairwise_append.mp sorted).2.2 other member name List.mem_cons_self
    have inserted : (set.insert name).toList = set.toList ++ [name] := insertInto_of_lt greatest
    have whole : (set.insert name).toList ++ rest = set.toList ++ name :: rest := by
      rw [inserted, List.append_assoc]
      rfl
    rw [List.foldl_cons, ih (whole ▸ sorted), whole]

/-- A set is the set of the names in its list. -/
theorem ofList_toList (set : NameSet) : ofList set.toList = set :=
  ext (toList_foldl_insert set.sorted)

end NameSet

namespace NameMap

variable {α β γ ε : Type}

theorem ext {first second : NameMap α} (same : first.toList = second.toList) : first = second := by
  cases first
  cases second
  cases same
  rfl

/-- A name has the value with which it is listed. -/
theorem get?_eq_some_iff {map : NameMap α} {name : Text} {value : α} :
    map.get? name = some value ↔ (name, value) ∈ map.toList := by
  obtain ⟨entries, sorted⟩ := map
  change (entries.find? (·.1 == name)).map (·.2) = some value ↔ (name, value) ∈ entries
  induction entries with
  | nil => simp
  | cons entry rest ih =>
    obtain ⟨first, later⟩ := List.pairwise_cons.mp sorted
    by_cases same : entry.1 = name
    · have elsewhere : (name, value) ∉ rest := fun present => by
        have before := first _ present
        rw [same] at before
        exact List.lt_irrefl name before
      obtain ⟨other, held⟩ := entry
      obtain rfl : other = name := same
      simp [elsewhere, eq_comm]
    · have different : entry ≠ (name, value) := fun equal => same (congrArg Prod.fst equal)
      rw [List.find?_cons_of_neg (by simpa using same), ih later, List.mem_cons]
      simp [Ne.symm different]

theorem get?_eq_none_iff {map : NameMap α} {name : Text} :
    map.get? name = none ↔ name ∉ map.names := by
  rw [get?, Option.map_eq_none_iff, List.find?_eq_none, names, List.mem_map]
  simp only [beq_iff_eq, not_exists, not_and]

theorem isEmpty_iff {map : NameMap α} : map.isEmpty = true ↔ map.names = [] := by
  simp [isEmpty, names]

@[simp] theorem names_mapValues (f : α → β) (map : NameMap α) :
    (map.mapValues f).names = map.names := by
  simp [names, mapValues, Function.comp_def]

theorem get?_mapValues (f : α → β) (map : NameMap α) (name : Text) :
    (map.mapValues f).get? name = (map.get? name).map f := by
  simp [get?, mapValues, List.find?_map, Function.comp_def]

theorem mapValues_id (map : NameMap α) : (map.mapValues fun value => value) = map :=
  ext (List.map_id' map.toList)

theorem mapValues_mapValues (f : α → β) (g : β → γ) (map : NameMap α) :
    (map.mapValues f).mapValues g = map.mapValues fun value => g (f value) :=
  ext (by simp [mapValues, Function.comp_def])

/-! ## Values that may fail -/

section Traverse
variable {f : α → Except ε β}

/-- Every entry of a list that is traversed is there afterwards, with what its value gives. -/
theorem exists_of_traverseEntries {entries : List (Text × α)}
    {results : { results : List (Text × β) // results.map (·.1) = entries.map (·.1) }}
    (done : traverseEntries f entries = .ok results) {name : Text} {value : α}
    (member : (name, value) ∈ entries) :
    ∃ result, f value = .ok result ∧ (name, result) ∈ results.val := by
  induction entries with
  | nil => cases member
  | cons entry rest ih =>
    obtain ⟨other, first⟩ := entry
    cases here : f first with
    | error fault => simp only [traverseEntries, here, bind, Except.bind, reduceCtorEq] at done
    | ok result =>
      cases later : traverseEntries f rest with
      | error fault =>
        simp only [traverseEntries, here, later, bind, Except.bind, reduceCtorEq] at done
      | ok after =>
        simp only [traverseEntries, here, later, bind, Except.bind, pure, Except.pure] at done
        cases done
        rcases List.mem_cons.mp member with same | inside
        · cases same
          exact ⟨result, here, List.mem_cons_self⟩
        · obtain ⟨found, read, present⟩ := ih later inside
          exact ⟨found, read, List.mem_cons_of_mem _ present⟩

theorem exists_traverseEntries {entries : List (Text × α)}
    (all : ∀ entry ∈ entries, ∃ result, f entry.2 = .ok result) :
    ∃ results, traverseEntries f entries = .ok results := by
  induction entries with
  | nil => exact ⟨_, rfl⟩
  | cons entry rest ih =>
    obtain ⟨⟨result, here⟩, others⟩ := List.forall_mem_cons.mp all
    obtain ⟨after, later⟩ := ih others
    simp only [traverseEntries, here, later, bind, Except.bind, pure, Except.pure]
    exact ⟨_, rfl⟩

theorem names_traverse {map : NameMap α} {results : NameMap β}
    (done : map.traverse f = .ok results) :
    results.names = map.names := by
  cases read : traverseEntries f map.toList with
  | error fault => simp only [traverse, read, bind, Except.bind, reduceCtorEq] at done
  | ok entries =>
    simp only [traverse, read, bind, Except.bind, pure, Except.pure] at done
    cases done
    exact entries.property

/-- Every name of a map that is traversed has afterwards what its value gives. -/
theorem exists_of_traverse {map : NameMap α} {results : NameMap β}
    (done : map.traverse f = .ok results) {name : Text} {value : α}
    (held : map.get? name = some value) :
    ∃ result, f value = .ok result ∧ results.get? name = some result := by
  cases read : traverseEntries f map.toList with
  | error fault => simp only [traverse, read, bind, Except.bind, reduceCtorEq] at done
  | ok entries =>
    simp only [traverse, read, bind, Except.bind, pure, Except.pure] at done
    cases done
    obtain ⟨result, here, member⟩ := exists_of_traverseEntries read (get?_eq_some_iff.mp held)
    exact ⟨result, here, get?_eq_some_iff.mpr member⟩

/-- A traversal gives every name what its value gives. -/
theorem get?_traverse {map : NameMap α} {results : NameMap β} (done : map.traverse f = .ok results)
    (name : Text) : results.get? name = (map.get? name).bind fun value => (f value).toOption := by
  cases present : map.get? name with
  | none =>
    rw [get?_eq_none_iff, ← names_traverse done] at present
    exact get?_eq_none_iff.mpr present
  | some value =>
    obtain ⟨result, here, found⟩ := exists_of_traverse done present
    rw [found, Option.bind_some, here]
    rfl

theorem traverseEntries_cons_eq_error_iff {entry : Text × α} {rest : List (Text × α)} {fault : ε} :
    traverseEntries f (entry :: rest) = .error fault ↔
      f entry.2 = .error fault ∨
        (∃ result, f entry.2 = .ok result) ∧ traverseEntries f rest = .error fault := by
  obtain ⟨name, value⟩ := entry
  cases here : f value with
  | error failure => simp [traverseEntries, here, bind, Except.bind]
  | ok result =>
    cases later : traverseEntries f rest <;>
      simp [traverseEntries, here, later, bind, Except.bind, pure, Except.pure]

/-- A list that is not traversed has a first value that fails, and fails as that value does. -/
theorem traverseEntries_eq_error_iff {entries : List (Text × α)} {fault : ε} :
    traverseEntries f entries = .error fault ↔
      ∃ before entry after, entries = before ++ entry :: after ∧ f entry.2 = .error fault ∧
        ∀ earlier ∈ before, ∃ result, f earlier.2 = .ok result := by
  induction entries with
  | nil => simp [traverseEntries]
  | cons entry rest ih =>
    rw [traverseEntries_cons_eq_error_iff, ih]
    constructor
    · rintro (failed | ⟨here, before, first, after, rfl, failed, passed⟩)
      · exact ⟨[], entry, rest, rfl, failed, nofun⟩
      · exact ⟨entry :: before, first, after, rfl, failed, List.forall_mem_cons.mpr ⟨here, passed⟩⟩
    · rintro ⟨before, first, after, whole, failed, passed⟩
      rcases List.cons_eq_append_iff.mp whole with ⟨rfl, same⟩ | ⟨before, rfl, rfl⟩
      · cases same
        exact .inl failed
      · obtain ⟨here, passed⟩ := List.forall_mem_cons.mp passed
        exact .inr ⟨here, before, first, after, rfl, failed, passed⟩

/-- A traversal fails as the value of the least name fails whose value gives nothing. -/
theorem traverse_eq_error_iff {map : NameMap α} {fault : ε} :
    map.traverse f = .error fault ↔
      ∃ name value, map.get? name = some value ∧ f value = .error fault ∧
        ∀ other earlier, map.get? other = some earlier → other < name →
          ∃ result, f earlier = .ok result := by
  have entries : map.traverse f = .error fault ↔ traverseEntries f map.toList = .error fault := by
    cases read : traverseEntries f map.toList <;>
      simp only [traverse, read, bind, Except.bind, pure, Except.pure, Except.error.injEq,
        reduceCtorEq]
  rw [entries, traverseEntries_eq_error_iff]
  have sorted := map.sorted
  constructor
  · rintro ⟨before, ⟨name, value⟩, after, whole, failed, passed⟩
    rw [whole] at sorted
    obtain ⟨_, behind, _⟩ := List.pairwise_append.mp sorted
    refine ⟨name, value, get?_eq_some_iff.mpr (by simp [whole]), failed, ?_⟩
    intro other earlier held less
    have listed := get?_eq_some_iff.mp held
    rw [whole] at listed
    rcases List.mem_append.mp listed with front | back
    · exact passed _ front
    · rcases List.mem_cons.mp back with same | later
      · cases same
        exact absurd less (List.lt_irrefl _)
      · exact absurd less (List.lt_asymm ((List.pairwise_cons.mp behind).1 _ later))
  · rintro ⟨name, value, held, failed, least⟩
    obtain ⟨before, after, whole⟩ := List.append_of_mem (get?_eq_some_iff.mp held)
    rw [whole] at sorted
    refine ⟨before, (name, value), after, whole, failed, fun entry front => ?_⟩
    have less := (List.pairwise_append.mp sorted).2.2 entry front _ List.mem_cons_self
    exact least entry.1 entry.2 (get?_eq_some_iff.mpr (whole ▸ List.mem_append_left _ front)) less

/-- A traversal succeeds if every value gives something. -/
theorem exists_traverse {map : NameMap α}
    (all : ∀ name value, map.get? name = some value → ∃ result, f value = .ok result) :
    ∃ results, map.traverse f = .ok results := by
  have everywhere : ∀ entry ∈ map.toList, ∃ result, f entry.2 = .ok result :=
    fun entry member => all entry.1 entry.2 (get?_eq_some_iff.mpr member)
  obtain ⟨entries, done⟩ := exists_traverseEntries everywhere
  simp only [traverse, done, bind, Except.bind, pure, Except.pure]
  exact ⟨_, rfl⟩

end Traverse

end NameMap

end TagQuery
