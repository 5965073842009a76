import Mathlib.Data.Finset.Card
import TagQuery.Proofs.Markup.AttributeReading

/-!
# Attributes as a map

Attributes are a map from names without regard to ASCII case, listed in the order of insertion.
`names_insertInto` and `lookup?_insertInto` say what one insertion does to the names and to the
values: it adds a name behind the others, or none if the name is there, and changes one value.
`ofList_insertionOrdered` says from this what any insertions together amount to: each name stands
where it was first inserted, in its first spelling and with its last value.
-/

namespace TagQuery.Attributes

/-- The names of some attributes, in their spellings and order. -/
def names (entries : List Attribute) : List Text := entries.map Attribute.name

/-! ## One insertion -/

section Insert
variable {name value : Text} {entries : List Attribute}

/-- The names after an insertion: those of before, and the inserted one if it is new. -/
theorem names_insertInto :
    names (insertInto name value entries) =
      if (names entries).any (Text.sameName · name) then names entries
      else names entries ++ [name] := by
  induction entries with
  | nil => rfl
  | cons entry rest ih =>
    have first : names (entry :: rest) = entry.name :: names rest := rfl
    rw [insertInto, first, List.any_cons]
    split
    · rename_i same
      rw [same, Bool.true_or, if_pos rfl]
      rfl
    · rename_i other
      have later : names (entry :: insertInto name value rest) =
          entry.name :: names (insertInto name value rest) := rfl
      rw [later, ih, Bool.eq_false_iff.mpr other, Bool.false_or]
      split <;> rfl

/-- The value of a name in a list of attributes. -/
def lookup? (name : Text) (entries : List Attribute) : Option Text :=
  (entries.find? (Text.sameName ·.name name)).map Attribute.value

theorem lookup?_cons (entry : Attribute) (rest : List Attribute) :
    lookup? name (entry :: rest) =
      if Text.sameName entry.name name then some entry.value else lookup? name rest := by
  rw [lookup?, List.find?_cons]
  split
  · rename_i same
    rw [if_pos same]
    rfl
  · rename_i other
    rw [other, if_neg Bool.false_ne_true]
    rfl

/-- An insertion changes the value of its name, in any spelling, and of no other. -/
theorem lookup?_insertInto (other : Text) :
    lookup? other (insertInto name value entries) =
      if Text.sameName name other then some value else lookup? other entries := by
  simp only [Text.sameName_iff]
  induction entries with
  | nil =>
    rw [insertInto, lookup?_cons]
    simp only [Text.sameName_iff]
  | cons entry rest ih =>
    rw [insertInto, lookup?_cons]
    simp only [Text.sameName_iff]
    by_cases same : Text.lower entry.name = Text.lower name
    · rw [if_pos same, lookup?_cons]
      simp only [Text.sameName_iff, same]
      split <;> rfl
    · rw [if_neg same, lookup?_cons, ih]
      simp only [Text.sameName_iff]
      -- One spelling cannot be that of two names that differ.
      by_cases asked : Text.lower entry.name = Text.lower other
      · have apart : Text.lower name ≠ Text.lower other := fun equal =>
          same (asked.trans equal.symm)
        rw [if_pos asked, if_neg apart, if_pos asked]
      · rw [if_neg asked, if_neg asked]

/-- Where names are distinct each has the value that stands beside it. -/
theorem lookup?_of_mem (distinct : Distinct entries) {entry : Attribute}
    (member : entry ∈ entries) :
    lookup? entry.name entries = some entry.value := by
  induction entries with
  | nil => cases member
  | cons first rest ih =>
    obtain ⟨apart, later⟩ := List.pairwise_cons.mp distinct
    rw [lookup?_cons]
    rcases List.mem_cons.mp member with rfl | inside
    · rw [Text.sameName_refl, if_pos rfl]
    · rw [apart entry inside, if_neg Bool.false_ne_true, ih later inside]

theorem lookup?_isSome_iff :
    (lookup? name entries).isSome = true ↔
      ∃ entry ∈ entries, Text.sameName entry.name name = true := by
  rw [lookup?, Option.isSome_map, List.find?_isSome]

end Insert

/-! ## Any insertions -/

/-- The value in the last of some insertions whose name is the given one in any spelling. -/
def lastValue? (name : Text) (calls : List Attribute) : Option Text := lookup? name calls.reverse

theorem lastValue?_cons (name : Text) (call : Attribute) (rest : List Attribute) :
    lastValue? name (call :: rest) =
      (lastValue? name rest).or
        (if Text.sameName call.name name then some call.value else none) := by
  rw [lastValue?, lookup?, List.reverse_cons, List.find?_append, lastValue?, lookup?,
    List.find?_singleton]
  cases rest.reverse.find? (Text.sameName ·.name name) with
  | some last => rfl
  | none =>
    rw [Option.none_or, Option.map_none, Option.none_or]
    split <;> rfl

theorem lastValue?_isSome_iff {name : Text} {calls : List Attribute} :
    (lastValue? name calls).isSome = true ↔
      ∃ call ∈ calls, Text.sameName call.name name = true := by
  rw [lastValue?, lookup?_isSome_iff]
  simp only [List.mem_reverse]

section Insertions
variable (attributes : Attributes) (calls : List Attribute)

/-- The attributes after some insertions. -/
def insertAll : Attributes :=
  calls.foldl (fun held call => held.insert call.name call.value) attributes

/-- Each name has its last value among the insertions, or else the value that it had before. -/
theorem get?_insertAll (name : Text) :
    (insertAll attributes calls).get? name = (lastValue? name calls).or (attributes.get? name) := by
  induction calls generalizing attributes with
  | nil => rfl
  | cons call rest ih =>
    have inserted : (attributes.insert call.name call.value).get? name =
        if Text.sameName call.name name then some call.value else attributes.get? name :=
      lookup?_insertInto name
    have step : insertAll attributes (call :: rest) =
        insertAll (attributes.insert call.name call.value) rest := rfl
    rw [step, ih, lastValue?_cons, Option.or_assoc, inserted]
    split <;> rfl

/-- Names that are new come behind the old ones, each where and as it is inserted first. -/
theorem names_insertAll :
    names (insertAll attributes calls).toList =
      names attributes.toList ++ ((names calls).filter fun name =>
        !(names attributes.toList).any (Text.sameName · name)).eraseDupsBy Text.sameName := by
  induction calls generalizing attributes with
  | nil => exact (List.append_nil _).symm
  | cons call rest ih =>
    have step : insertAll attributes (call :: rest) =
        insertAll (attributes.insert call.name call.value) rest := rfl
    have first : names (call :: rest) = call.name :: names rest := rfl
    have inserted : names (attributes.insert call.name call.value).toList = _ := names_insertInto
    rw [step, ih, inserted, first, List.filter_cons]
    generalize names attributes.toList = old
    cases known : old.any (Text.sameName · call.name) with
    | true => rw [if_pos rfl, Bool.not_true, if_neg Bool.false_ne_true]
    | false =>
      have later (name : Text) : (!(old ++ [call.name]).any (Text.sameName · name)) =
          (decide (Text.sameName name call.name = false) && !old.any (Text.sameName · name)) := by
        have turned : Text.sameName call.name name = Text.sameName name call.name := by
          rw [Bool.eq_iff_iff, Text.sameName_iff, Text.sameName_iff, eq_comm]
        rw [List.any_append, List.any_cons, List.any_nil, Bool.or_false, Bool.not_or, turned,
          Bool.and_comm]
        cases Text.sameName name call.name <;> rfl
      rw [if_neg Bool.false_ne_true, Bool.not_false, if_pos rfl, List.eraseDupsBy_cons,
        List.filter_filter, List.append_assoc, List.singleton_append]
      simp only [later]

theorem distinct_insertAll (distinct : Distinct attributes.toList) :
    Distinct (insertAll attributes calls).toList := by
  induction calls generalizing attributes with
  | nil => exact distinct
  | cons call rest ih => exact ih _ (distinct_insertInto distinct)

theorem nodup_lower {entries : List Attribute} (distinct : Distinct entries) :
    ((names entries).map Text.lower).Nodup := by
  rw [names, List.map_map]
  refine List.pairwise_map.mpr (distinct.imp fun apart equal => ?_)
  exact Bool.false_ne_true (apart.symm.trans (Text.sameName_iff.mpr equal))

/-- The names of some attributes without regard to case, each once. -/
def nameClasses (entries : List Attribute) : Finset Text :=
  ((names entries).map Text.lower).toFinset

theorem lower_mem_nameClasses {entries : List Attribute} {name : Text} :
    Text.lower name ∈ nameClasses entries ↔
      ∃ entry ∈ entries, Text.sameName entry.name name = true := by
  simp [nameClasses, names, Text.sameName_iff]

theorem nameClasses_subset {first second : List Attribute}
    (held : ∀ name, Text.lower name ∈ nameClasses first → Text.lower name ∈ nameClasses second) :
    nameClasses first ⊆ nameClasses second := by
  intro lowered member
  obtain ⟨name, _, rfl⟩ := List.mem_map.mp (List.mem_toFinset.mp member)
  exact held name member

/-- Distinct names are as many as their classes. -/
theorem size_of_distinct {attributes : Attributes} (distinct : Distinct attributes.toList) :
    attributes.size = (nameClasses attributes.toList).card := by
  rw [nameClasses, List.toFinset_card_of_nodup (nodup_lower distinct), List.length_map, names,
    List.length_map]
  rfl

/-- Insertions into no attributes lead to the classes of names that were inserted. -/
theorem nameClasses_insertAll :
    nameClasses (insertAll empty calls).toList = nameClasses calls := by
  have same (name : Text) : Text.lower name ∈ nameClasses (insertAll empty calls).toList ↔
      Text.lower name ∈ nameClasses calls := by
    have value := (get?_insertAll empty calls name).trans Option.or_none
    rw [lower_mem_nameClasses, lower_mem_nameClasses, ← lookup?_isSome_iff,
      ← lastValue?_isSome_iff, ← value]
    rfl
  exact (nameClasses_subset fun name => (same name).mp).antisymm
    (nameClasses_subset fun name => (same name).mpr)

end Insertions

/-- The attributes that any insertions lead to: names that differ beyond case, each where it was
inserted first, spelled as it was then and with the value that was inserted last. -/
theorem ofList_insertionOrdered (calls : List Attribute) :
    let held := ofList calls
    Distinct held.toList ∧
      names held.toList = (names calls).eraseDupsBy Text.sameName ∧
      (∀ entry ∈ held.toList, lastValue? entry.name calls = some entry.value) ∧
      held.size = (nameClasses calls).card ∧
      ∀ name, held.get? name = lastValue? name calls ∧
        (held.contains name = true ↔ ∃ call ∈ calls, Text.sameName call.name name = true) := by
  have distinct : Distinct (ofList calls).toList := distinct_insertAll empty calls .nil
  have value (name : Text) : (ofList calls).get? name = lastValue? name calls :=
    (get?_insertAll empty calls name).trans (Option.or_none)
  have size : (ofList calls).size = (nameClasses calls).card :=
    (size_of_distinct distinct).trans (congrArg Finset.card (nameClasses_insertAll calls))
  have listed : names (ofList calls).toList = (names calls).eraseDupsBy Text.sameName := by
    have fresh : ∀ name ∈ names calls,
        (!(names empty.toList).any (Text.sameName · name)) = true := fun _ _ => rfl
    have added := names_insertAll empty calls
    rwa [List.filter_eq_self.mpr fresh] at added
  refine ⟨distinct, listed, fun entry member => ?_, size, fun name => ⟨value name, ?_⟩⟩
  · rw [← value]
    exact lookup?_of_mem distinct member
  · rw [contains, value, lastValue?_isSome_iff]

/-- A name that is inserted again in another case stays where it was and changes its value. -/
theorem ofList_insertionOrdered_respelled :
    let calls : List Attribute := [⟨['A'], ['1']⟩, ⟨['b'], []⟩, ⟨['a'], ['2']⟩]
    let held := ofList calls
    ⟨['A'], ['2']⟩ ∈ held.toList ∧ names held.toList = [['A'], ['b']] ∧
      lastValue? ['A'] calls = some ['2'] ∧ held.size = 2 ∧ held.get? ['B'] = some [] ∧
      held.contains ['a'] = true := by
  intro calls held
  have member : ⟨['A'], ['2']⟩ ∈ held.toList := by decide
  obtain ⟨_, listed, values, size, lookups⟩ := ofList_insertionOrdered calls
  exact ⟨member, listed.trans (by decide), values _ member, size.trans (by decide),
    (lookups ['B']).1.trans (by decide), (lookups ['a']).2.mpr (by decide)⟩

end TagQuery.Attributes
