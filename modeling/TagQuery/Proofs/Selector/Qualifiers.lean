import Mathlib.Data.Finset.Card
import TagQuery.Proofs.Selector.Rendering
import TagQuery.Selector.Matching

/-!
# Classes and identifiers

What a selector of classes asks for, said with the set of the wanted classes and the set of those
that an element has: the two are the same if they are of one size, and otherwise they meet
(`classesFit_iff`). The sets are all that counts. Neither the order nor the repetition of what is
written, in the selector or in the attribute, makes a difference.

A class and an `id` can be asked for by a mark or by a condition. `parse_parts` reads both as
qualifiers, and `qualifiers_agree` says that they come to the same.
-/

namespace TagQuery

/-! ## Members -/

namespace NameSet

/-- The members of a set, without their order. -/
def members (set : NameSet) : Finset Text := set.toList.toFinset

theorem mem_members {set : NameSet} {name : Text} : name ∈ set.members ↔ name ∈ set.toList :=
  List.mem_toFinset

theorem nodup_toList (set : NameSet) : set.toList.Nodup := by
  apply set.sorted.imp
  rintro name other before rfl
  exact List.lt_irrefl name before

theorem card_members (set : NameSet) : set.members.card = set.size :=
  List.toFinset_card_of_nodup set.nodup_toList

theorem members_ofList (names : List Text) : (ofList names).members = names.toFinset := by
  ext name
  rw [mem_members, mem_ofList, List.mem_toFinset]

end NameSet

/-- The words of the `class` attribute, each once and in no order. -/
def Element.classWords (element : Element) : Finset Text :=
  (Text.words ((element.attribute? "class".toList).getD [])).toFinset

theorem Element.members_classes (element : Element) :
    element.classes.members = element.classWords :=
  NameSet.members_ofList _

/-- How wanted classes fit the classes that are present. -/
def ClassesFit (wanted present : Finset Text) : Prop :=
  (wanted.card = present.card ∧ wanted = present) ∨
    (wanted.card ≠ present.card ∧ (wanted ∩ present).Nonempty)

instance (wanted present : Finset Text) : Decidable (ClassesFit wanted present) :=
  inferInstanceAs (Decidable (_ ∨ _))

theorem classesFit_iff {wanted present : NameSet} (inhabited : wanted.members.Nonempty) :
    classesFit wanted present = true ↔ ClassesFit wanted.members present.members := by
  have filled : ¬ wanted.isEmpty = true := by
    obtain ⟨name, member⟩ := inhabited
    intro empty
    rw [NameSet.mem_members, List.isEmpty_iff.mp empty] at member
    cases member
  rw [classesFit, if_neg filled, ClassesFit, NameSet.card_members, NameSet.card_members]
  by_cases size : wanted.size = present.size
  · have within : wanted.toList.all present.contains = true ↔ wanted.members ⊆ present.members := by
      simp only [List.all_eq_true, NameSet.contains_iff, Finset.subset_iff, NameSet.mem_members]
    have whole : wanted.members ⊆ present.members ↔ wanted.members = present.members := by
      constructor
      · intro subset
        apply Finset.eq_of_subset_of_card_le subset
        rw [NameSet.card_members, NameSet.card_members, size]
      · rintro same
        exact same.subset
    rw [if_pos size, within, whole]
    simp [size]
  · have shared : wanted.toList.any present.contains = true ↔
        (wanted.members ∩ present.members).Nonempty := by
      simp only [List.any_eq_true, NameSet.contains_iff, Finset.Nonempty, Finset.mem_inter,
        NameSet.mem_members]
    rw [if_neg size, shared]
    simp [size]

theorem classesFit_empty (present : NameSet) : classesFit ∅ present = true := rfl

/-- One class is wanted of an element exactly if it is one of its classes, however many it has. -/
theorem classesFit_singleton (name : Text) (present : Finset Text) :
    ClassesFit {name} present ↔ name ∈ present := by
  rw [ClassesFit, Finset.card_singleton]
  constructor
  · rintro (⟨_, rfl⟩ | ⟨_, shared⟩)
    · exact Finset.mem_singleton_self name
    · obtain ⟨other, member⟩ := shared
      obtain ⟨same, inside⟩ := Finset.mem_inter.mp member
      exact Finset.mem_singleton.mp same ▸ inside
  · intro member
    have shared : ({name} ∩ present).Nonempty :=
      ⟨name, Finset.mem_inter.mpr ⟨Finset.mem_singleton_self name, member⟩⟩
    by_cases size : 1 = present.card
    · left
      obtain ⟨other, rfl⟩ := Finset.card_eq_one.mp size.symm
      exact ⟨size, by rw [Finset.mem_singleton.mp member]⟩
    · exact .inr ⟨size, shared⟩

/-! ## Reading qualifiers -/

namespace Selector

open Grammar

/-- Qualifiers one behind the other are read as the link that has all of them. -/
theorem parse_parts {parts : List Part} (filled : parts ≠ []) (plain : ∀ part ∈ parts, part.Plain) :
    parse (parts.flatMap Part.text) =
      .ok (.last (linkOf none (parts.map Part.qualifier))) := by
  let written : WrittenLink := ⟨.nothing, .omitted, parts.map fun part => (.nothing, part),
    .nothing, fun _ => by simpa using filled⟩
  have writtenPlain : written.Plain := by
    intro part member
    obtain ⟨part, inside, rfl⟩ := List.mem_map.mp member
    exact plain part inside
  have text : written.text = parts.flatMap Part.text := by
    simp [written, WrittenLink.text, Start.text, partsText, Space.nothing, List.flatMap_map]
  have qualifiers : written.qualifiers = parts.map Part.qualifier := by
    simp [written, WrittenLink.qualifiers]
  have read : parse written.text = .ok (.last written.link) :=
    @Chain.Plain.parse_text (.last written) writtenPlain
  rw [← linkOf_qualifiers, qualifiers, text] at read
  exact read

theorem parse_part {part : Part} (plain : part.Plain) :
    parse part.text = .ok (.last (linkOf none [part.qualifier])) := by
  have read := parse_parts (List.cons_ne_nil part []) (List.forall_mem_singleton.mpr plain)
  rwa [List.flatMap_singleton] at read

theorem isBlank_of_isIdentChar {c : Char} (ident : isIdentChar c = true) :
    Text.isBlank c = false := by
  simp only [isIdentChar, Char.isAlphanum, Bool.or_eq_true, Bool.and_eq_true, beq_iff_eq,
    Bool.not_eq_true'] at ident
  rcases ident with (((alpha | digit) | rfl) | rfl) | ⟨_, inked⟩
  · exact Text.isBlank_of_isAlpha alpha
  · obtain ⟨low, high⟩ : 48 ≤ c.toNat ∧ c.toNat ≤ 57 := by
      obtain ⟨low, high⟩ := (Bool.and_eq_true _ _).mp digit
      exact ⟨of_decide_eq_true low, of_decide_eq_true high⟩
    rw [← Bool.not_eq_true]
    intro blank
    simp only [Text.isBlank, Bool.or_eq_true, Bool.and_eq_true, decide_eq_true_eq,
      beq_iff_eq] at blank
    omega
  · decide
  · decide
  · exact inked

namespace Grammar

/-- Nothing is trimmed from an identifier. -/
theorem Word.trim_text (word : Word isIdentChar) : Text.trim word.text = word.text := by
  have front : ∀ c ∈ word.text.head?, Text.isBlank c = false := fun c first =>
    isBlank_of_isIdentChar (word.inside c (List.mem_of_mem_head? first))
  have back : ∀ c ∈ word.text.reverse.head?, Text.isBlank c = false := fun c last =>
    isBlank_of_isIdentChar (word.inside c (List.mem_reverse.mp (List.mem_of_mem_head? last)))
  have none : ∀ c ∈ ([] : Text), Text.isBlank c = true := List.forall_mem_nil _
  have start : Text.trimStart word.text = word.text := Text.dropWhile_run none front
  have ends : word.text.reverse.dropWhile Text.isBlank = word.text.reverse :=
    Text.dropWhile_run none back
  rw [Text.trim, start, Text.trimEnd, ends, List.reverse_reverse]

/-- An identifier as a value without quotation marks. -/
def Word.value (word : Word isIdentChar) : Value :=
  .bare word.text (word.notMem (by decide))
    (fun c first => by
      have ident := word.inside c (List.mem_of_mem_head? first)
      constructor <;>
      · rintro rfl
        exact absurd ident (by decide))
    (by
      rw [word.trim_text]
      exact word.nonempty)

/-- The condition that an attribute compares with an identifier. -/
def comparing (name : Word isNameChar) (mode : MatchMode) (signed : mode ≠ .present)
    (word : Word isIdentChar) : Part :=
  .bracket ⟨.nothing, name, .nothing, some ⟨mode, signed, .nothing, word.value, .nothing⟩⟩

theorem text_comparing (name : Word isNameChar) {mode : MatchMode} (signed : mode ≠ .present)
    (word : Word isIdentChar) :
    (comparing name mode signed word).text =
      '[' :: (name.text ++ mode.sign ++ word.text ++ [']']) := by
  simp [comparing, Part.text, Bracket.text, Comparison.text, Value.text, Word.value, Space.nothing]

theorem qualifier_comparing (name : Word isNameChar) {mode : MatchMode} (signed : mode ≠ .present)
    (word : Word isIdentChar) :
    (comparing name mode signed word).qualifier =
      .bracket ⟨name.text, some word.text, mode⟩ := by
  have expected : word.value.expected = word.text := word.trim_text
  rw [comparing, Part.qualifier, Bracket.condition, conditionOf, Option.map_some, expected]
  rfl

theorem plain_comparing (name : Word isNameChar) (mode : MatchMode) (signed : mode ≠ .present)
    (word : Word isIdentChar) : (comparing name mode signed word).Plain := by
  rintro comparison found
  obtain rfl := Option.some.inj found
  exact ⟨word.notMem (by decide), word.notMem (by decide)⟩

end Grammar

/-! ## What qualifiers accept -/

/-- A link that asks for classes only accepts elements by their classes. -/
theorem accepts_classes {names : List Text} (filled : names ≠ []) (element : Element) :
    (linkOf none (names.map Qualifier.className)).accepts element = true ↔
      ClassesFit names.toFinset element.classWords := by
  have link : linkOf none (names.map Qualifier.className) =
      { Link.any with classes := NameSet.ofList names } := by
    have classes : (names.map Qualifier.className).filterMap Qualifier.className? = names := by
      rw [List.filterMap_map]
      exact List.filterMap_some
    have others {α : Type} {field? : Qualifier → Option α}
        (absent : ∀ name, field? (.className name) = none) :
        (names.map Qualifier.className).filterMap field? = [] := by
      simp [absent]
    rw [linkOf, foldl_addTo, classes, others fun _ => rfl, others fun _ => rfl]
    rfl
  have inhabited : (NameSet.ofList names).members.Nonempty := by
    rw [NameSet.members_ofList, List.toFinset_nonempty_iff]
    exact filled
  rw [link, ← NameSet.members_ofList, ← Element.members_classes, ← classesFit_iff inhabited]
  simp [Link.accepts, Link.any]

/-- A link that asks for a condition only accepts elements by it. -/
theorem accepts_bracket (condition : Condition) (element : Element) :
    (linkOf none [.bracket condition]).accepts element = condition.accepts element := by
  simp [linkOf, Qualifier.addTo, Link.any, Link.accepts, classesFit_empty]

theorem accepts_identifier (name : Text) (element : Element) :
    (linkOf none [.identifier name]).accepts element = (element.id? == some name) := by
  simp [linkOf, Qualifier.addTo, Link.any, Link.accepts, classesFit_empty]

theorem accepts_className_iff (name : Text) (element : Element) :
    (linkOf none [.className name]).accepts element = true ↔ name ∈ element.classWords := by
  have single := accepts_classes (List.cons_ne_nil name []) element
  rwa [List.toFinset_cons, List.toFinset_nil, insert_empty_eq, classesFit_singleton] at single

/-- A class is asked for as well by a condition on the words of its attribute. -/
theorem accepts_className (name : Text) (element : Element) :
    (linkOf none [.className name]).accepts element =
      (linkOf none [.bracket ⟨"class".toList, some name, .listContains⟩]).accepts element := by
  rw [Bool.eq_iff_iff, accepts_className_iff, accepts_bracket, Element.classWords,
    List.mem_toFinset, Condition.accepts]
  cases element.attribute? "class".toList with
  | none => simp [Text.words, Text.splitWhere]
  | some value => simp [MatchMode.accepts]

/-- An `id` is asked for as well by a condition on its attribute. -/
theorem accepts_id (name : Text) (element : Element) :
    (linkOf none [.identifier name]).accepts element =
      (linkOf none [.bracket ⟨"id".toList, some name, .equals⟩]).accepts element := by
  rw [accepts_identifier, accepts_bracket, Element.id?, Condition.accepts]
  cases element.attribute? "id".toList with
  | none => rfl
  | some value => simp [MatchMode.accepts]

/-! ## Selectors -/

/-- Classes, each behind its mark. -/
def writtenClasses (names : List (Word isIdentChar)) : Text :=
  names.flatMap fun name => '.' :: name.text

/-- A selector of classes accepts the elements whose classes are the wanted ones, or share one of
them if they are not as many. A class alone is asked for with the mark of classes as with a
condition on the words of `class`, and an `id` with its mark as with a condition on `id`. -/
theorem qualifiers_agree :
    (∀ names : List (Word isIdentChar), names ≠ [] →
      ∃ selector, parse (writtenClasses names) = .ok selector ∧
        ∀ element, selector.accepts element = true ↔
          ClassesFit (names.map fun name => name.text).toFinset element.classWords) ∧
      ∀ name : Word isIdentChar,
        (∃ marked bracketed, parse ('.' :: name.text) = .ok marked ∧
          parse ("[class~=".toList ++ name.text ++ "]".toList) = .ok bracketed ∧
            ∀ element, (marked.accepts element = true ↔ name.text ∈ element.classWords) ∧
              bracketed.accepts element = marked.accepts element) ∧
          ∃ marked bracketed, parse ('#' :: name.text) = .ok marked ∧
            parse ("[id=".toList ++ name.text ++ "]".toList) = .ok bracketed ∧
              ∀ element, bracketed.accepts element = marked.accepts element := by
  constructor
  · intro names filled
    have texts : writtenClasses names =
        (names.map (Part.className .nothing)).flatMap Part.text := by
      rw [List.flatMap_map]
      rfl
    have qualifiers : (names.map (Part.className .nothing)).map Part.qualifier =
        (names.map fun name => name.text).map Qualifier.className := by
      rw [List.map_map, List.map_map]
      rfl
    have plain : ∀ part ∈ names.map (Part.className .nothing), part.Plain := by
      intro part member
      obtain ⟨name, _, rfl⟩ := List.mem_map.mp member
      trivial
    have read := parse_parts (by simpa using filled) plain
    rw [← texts, qualifiers] at read
    exact ⟨_, read, accepts_classes (by simpa using filled)⟩
  · intro name
    let classWord : Word isNameChar := ⟨"class".toList, by decide, by decide⟩
    let idWord : Word isNameChar := ⟨"id".toList, by decide, by decide⟩
    have byClass := @parse_part (.className .nothing name) trivial
    have byWords := parse_part (plain_comparing classWord .listContains nofun name)
    have byId := @parse_part (.identifier .nothing name) trivial
    have byValue := parse_part (plain_comparing idWord .equals nofun name)
    rw [text_comparing, qualifier_comparing] at byWords byValue
    exact ⟨⟨_, _, byClass, byWords, fun element =>
        ⟨accepts_className_iff name.text element, (accepts_className name.text element).symm⟩⟩,
      _, _, byId, byValue, fun element => (accepts_id name.text element).symm⟩

/-- Two classes, one of them twice: accepted where an element has just these two, in whatever order
and between whatever blanks, or one of them alone, and not where it has one of them and another. -/
theorem qualifiers_agree_repeated :
    let names : List (Word isIdentChar) :=
      [⟨['b'], by decide, by decide⟩, ⟨['a'], by decide, by decide⟩, ⟨['b'], by decide, by decide⟩]
    let holding (classes : Text) : Element := ⟨['p'], .ofList [⟨"CLASS".toList, classes⟩], []⟩
    names ≠ [] ∧ writtenClasses names = ".b.a.b".toList ∧
      ∃ selector, parse ".b.a.b".toList = .ok selector ∧
        selector.accepts (holding "a\x0bb a".toList) = true ∧
        selector.accepts (holding "a".toList) = true ∧
        selector.accepts (holding "a c".toList) = false := by
  intro names holding
  obtain ⟨selector, read, accepts⟩ := qualifiers_agree.1 names (List.cons_ne_nil _ _)
  refine ⟨List.cons_ne_nil _ _, rfl, selector, read, (accepts _).mpr ?_, (accepts _).mpr ?_, ?_⟩
  · decide
  · decide
  · rw [← Bool.not_eq_true, accepts]
    decide

end Selector

end TagQuery
