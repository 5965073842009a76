import TagQuery.Text.Basic

/-!
# Sorted sets and maps of names

A set of names is kept in the order of code points with each name once, so that two sets with the
same members are equal and a set is always listed in the same way. A map gives one value to each
of its names and lists them in the same order.
-/

namespace TagQuery

/-- A set of names, listed in the order of code points. -/
structure NameSet where
  /-- The members, each once. -/
  toList : List Text
  sorted : toList.Pairwise (· < ·)
deriving DecidableEq

namespace NameSet

/-- The sorted list with one more member. -/
def insertInto (name : Text) : List Text → List Text
  | [] => [name]
  | other :: rest =>
    if name < other then name :: other :: rest
    else if other < name then other :: insertInto name rest
    else other :: rest

theorem mem_insertInto {name member : Text} {names : List Text} :
    member ∈ insertInto name names ↔ member = name ∨ member ∈ names := by
  induction names with
  | nil => simp [insertInto]
  | cons other rest ih =>
    unfold insertInto
    split
    · simp
    · split
      · simp only [List.mem_cons, ih, or_left_comm]
      · rename_i notBefore notAfter
        have same : name = other :=
          List.le_antisymm (List.not_lt.mp notAfter) (List.not_lt.mp notBefore)
        simp [same]

theorem pairwise_insertInto {name : Text} {names : List Text} (sorted : names.Pairwise (· < ·)) :
    (insertInto name names).Pairwise (· < ·) := by
  induction names with
  | nil => simp [insertInto]
  | cons other rest ih =>
    obtain ⟨least, restSorted⟩ := List.pairwise_cons.mp sorted
    unfold insertInto
    split
    · rename_i before
      refine List.pairwise_cons.mpr ⟨fun member inside => ?_, sorted⟩
      rcases List.mem_cons.mp inside with rfl | later
      · exact before
      · exact List.lt_trans before (least member later)
    · split
      · rename_i after
        refine List.pairwise_cons.mpr ⟨fun member inside => ?_, ih restSorted⟩
        rcases mem_insertInto.mp inside with rfl | old
        · exact after
        · exact least member old
      · exact sorted

/-- The set with one more member. -/
def insert (set : NameSet) (name : Text) : NameSet :=
  ⟨insertInto name set.toList, pairwise_insertInto set.sorted⟩

@[simp] theorem mem_insert {set : NameSet} {name member : Text} :
    member ∈ (set.insert name).toList ↔ member = name ∨ member ∈ set.toList :=
  mem_insertInto

/-- The set without members. -/
def empty : NameSet := ⟨[], .nil⟩

instance : EmptyCollection NameSet := ⟨empty⟩

instance : Inhabited NameSet := ⟨empty⟩

/-- The set of the names in a list. -/
def ofList (names : List Text) : NameSet := names.foldl insert empty

theorem mem_foldl_insert {names : List Text} {set : NameSet} {member : Text} :
    member ∈ (names.foldl insert set).toList ↔ member ∈ names ∨ member ∈ set.toList := by
  induction names generalizing set with
  | nil => simp
  | cons name rest ih =>
    simp only [List.foldl_cons, ih, mem_insert, List.mem_cons, or_left_comm, or_assoc]

/-- The members are the names of the list, however they are ordered and repeated. -/
theorem mem_ofList {names : List Text} {member : Text} :
    member ∈ (ofList names).toList ↔ member ∈ names := by
  simp [ofList, mem_foldl_insert, empty]

/-- Whether a name is a member. -/
def contains (set : NameSet) (name : Text) : Bool := set.toList.contains name

theorem contains_iff {set : NameSet} {name : Text} :
    set.contains name = true ↔ name ∈ set.toList := by
  simp [contains]

/-- The number of members. -/
def size (set : NameSet) : Nat := set.toList.length

/-- Whether the set has no members. -/
def isEmpty (set : NameSet) : Bool := set.toList.isEmpty

end NameSet

/-- One value for each of its names, listed in the order of code points. -/
structure NameMap (α : Type) where
  /-- The names with their values, each name once. -/
  toList : List (Text × α)
  sorted : toList.Pairwise (·.1 < ·.1)

namespace NameMap

variable {α β : Type}

/-- The sorted list of entries in which the name has the value. -/
def insertInto (name : Text) (value : α) : List (Text × α) → List (Text × α)
  | [] => [(name, value)]
  | other :: rest =>
    if name < other.1 then (name, value) :: other :: rest
    else if other.1 < name then other :: insertInto name value rest
    else (other.1, value) :: rest

theorem mem_insertInto_or {name : Text} {value : α} {entry : Text × α} {entries : List (Text × α)}
    (entry_mem : entry ∈ insertInto name value entries) :
    entry.1 = name ∨ ∃ old ∈ entries, old.1 = entry.1 := by
  induction entries with
  | nil => simp only [insertInto, List.mem_singleton] at entry_mem; exact .inl (by rw [entry_mem])
  | cons other rest ih =>
    unfold insertInto at entry_mem
    split at entry_mem
    · rcases List.mem_cons.mp entry_mem with rfl | inside
      · exact .inl rfl
      · exact .inr ⟨entry, inside, rfl⟩
    · split at entry_mem
      · rcases List.mem_cons.mp entry_mem with rfl | inside
        · exact .inr ⟨entry, List.mem_cons_self, rfl⟩
        · rcases ih inside with same | ⟨old, present, sameName⟩
          · exact .inl same
          · exact .inr ⟨old, List.mem_cons_of_mem _ present, sameName⟩
      · rcases List.mem_cons.mp entry_mem with rfl | inside
        · exact .inr ⟨other, List.mem_cons_self, rfl⟩
        · exact .inr ⟨entry, List.mem_cons_of_mem _ inside, rfl⟩

theorem pairwise_insertInto {name : Text} {value : α} {entries : List (Text × α)}
    (sorted : entries.Pairwise (·.1 < ·.1)) :
    (insertInto name value entries).Pairwise (·.1 < ·.1) := by
  induction entries with
  | nil => simp [insertInto]
  | cons other rest ih =>
    obtain ⟨least, restSorted⟩ := List.pairwise_cons.mp sorted
    unfold insertInto
    split
    · rename_i before
      refine List.pairwise_cons.mpr ⟨fun entry inside => ?_, sorted⟩
      rcases List.mem_cons.mp inside with rfl | later
      · exact before
      · exact List.lt_trans before (least entry later)
    · split
      · rename_i after
        refine List.pairwise_cons.mpr ⟨fun entry inside => ?_, ih restSorted⟩
        rcases mem_insertInto_or inside with same | ⟨old, present, sameName⟩
        · exact same ▸ after
        · exact sameName ▸ least old present
      · exact List.pairwise_cons.mpr ⟨least, restSorted⟩

/-- The map in which the name has the value, whatever it had before. -/
def insert (map : NameMap α) (name : Text) (value : α) : NameMap α :=
  ⟨insertInto name value map.toList, pairwise_insertInto map.sorted⟩

/-- The map without entries. -/
def empty : NameMap α := ⟨[], .nil⟩

instance : EmptyCollection (NameMap α) := ⟨empty⟩

instance : Inhabited (NameMap α) := ⟨empty⟩

/-- The map of the entries in a list; of two entries with one name the later counts. -/
def ofList (entries : List (Text × α)) : NameMap α :=
  entries.foldl (fun map entry => map.insert entry.1 entry.2) empty

/-- The names, in the order of code points. -/
def names (map : NameMap α) : List Text := map.toList.map (·.1)

/-- The value of a name. -/
def get? (map : NameMap α) (name : Text) : Option α :=
  (map.toList.find? (·.1 == name)).map (·.2)

/-- Whether the map has no entries. -/
def isEmpty (map : NameMap α) : Bool := map.toList.isEmpty

/-- The map with every value replaced by what the function makes of it. -/
def mapValues (f : α → β) (map : NameMap α) : NameMap β :=
  ⟨map.toList.map fun entry => (entry.1, f entry.2),
    List.pairwise_map.mpr map.sorted⟩

/-- The entries with every value replaced by the result of a function, unless one of the results
is a failure; then the first failure. The names stay. -/
def traverseEntries {ε : Type} (f : α → Except ε β) : (entries : List (Text × α)) →
    Except ε { results : List (Text × β) // results.map (·.1) = entries.map (·.1) }
  | [] => .ok ⟨[], rfl⟩
  | (name, value) :: rest => do
    let result ← f value
    let results ← traverseEntries f rest
    return ⟨(name, result) :: results.val, congrArg (name :: ·) results.property⟩

/-- The map with every value replaced by the result of a function, unless one of the results is a
failure; then the failure of the least name. -/
def traverse {ε : Type} (f : α → Except ε β) (map : NameMap α) : Except ε (NameMap β) := do
  let results ← traverseEntries f map.toList
  have sorted : (results.val.map (·.1)).Pairwise (· < ·) := by
    rw [results.property]
    exact List.pairwise_map.mpr map.sorted
  return ⟨results.val, List.pairwise_map.mp sorted⟩

end NameMap

end TagQuery
