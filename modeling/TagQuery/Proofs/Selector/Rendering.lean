import TagQuery.Proofs.Selector.Composition
import TagQuery.Proofs.Text.Escapes
import TagQuery.Proofs.Text.NameMap
import TagQuery.Selector.Printer

/-!
# Reading what is written

The written form quotes expected texts with escapes, and the parser reads what stands between
quotation marks as it is. So a written selector is read as the one whose expected texts are the
written ones (`parse_renderWith`), as long as there is no quotation mark among these.

`renderWith` is the written form with the escapes left open. A selector has to be well formed to be
written as a chain of the grammar, and those that the parser accepts are (`wellFormed_of_parse`).
-/

namespace TagQuery

namespace Selector

/-- Whether a text is one or more characters of a class. -/
def IsWord (p : Char → Bool) (text : Text) : Prop := text ≠ [] ∧ ∀ c ∈ text, p c = true

instance (p : Char → Bool) (text : Text) : Decidable (IsWord p text) :=
  inferInstanceAs (Decidable (_ ∧ _))

end Selector

open Selector Grammar

/-! ## Well-formed selectors -/

/-- A condition with the name of an attribute, and a text unless it asks for presence alone. -/
structure Condition.WellFormed (condition : Condition) : Prop where
  name : IsWord isNameChar condition.name
  expected : condition.expected = none ↔ condition.mode = .present

instance (condition : Condition) : Decidable condition.WellFormed :=
  decidable_of_iff (IsWord isNameChar condition.name ∧
      (condition.expected = none ↔ condition.mode = .present))
    ⟨fun ⟨name, expected⟩ => ⟨name, expected⟩, fun ⟨name, expected⟩ => ⟨name, expected⟩⟩

structure Link.WellFormed (link : Link) : Prop where
  tag : ∀ tag ∈ link.tag, IsWord isIdentChar tag ∧ ∀ c ∈ tag.head?, c.isAlpha = true
  id : ∀ id ∈ link.id, IsWord isIdentChar id
  classes : ∀ name ∈ link.classes.toList, IsWord isIdentChar name
  condition : ∀ condition ∈ link.condition, condition.WellFormed

instance (link : Link) : Decidable link.WellFormed :=
  decidable_of_iff
    ((∀ tag ∈ link.tag, IsWord isIdentChar tag ∧ ∀ c ∈ tag.head?, c.isAlpha = true) ∧
      (∀ id ∈ link.id, IsWord isIdentChar id) ∧
      (∀ name ∈ link.classes.toList, IsWord isIdentChar name) ∧
      ∀ condition ∈ link.condition, condition.WellFormed)
    ⟨fun ⟨tag, id, classes, condition⟩ => ⟨tag, id, classes, condition⟩,
      fun ⟨tag, id, classes, condition⟩ => ⟨tag, id, classes, condition⟩⟩

/-- A selector that is made of names, whatever its expected texts are. -/
def Selector.WellFormed (selector : Selector) : Prop := ∀ link ∈ selector.links, link.WellFormed

instance (selector : Selector) : Decidable selector.WellFormed :=
  inferInstanceAs (Decidable (∀ link ∈ selector.links, link.WellFormed))

/-! ## Accepted selectors are well formed -/

namespace Selector

namespace Grammar

theorem Word.isWord {p : Char → Bool} (word : Word p) : IsWord p word.text :=
  ⟨word.nonempty, word.inside⟩

theorem Bracket.wellFormed (bracket : Bracket) : bracket.condition.WellFormed :=
  ⟨bracket.name.isWord, expected_eq_none_iff⟩

theorem Start.wellFormed {start : Start} {tag : Text} (named : tag ∈ start.tag?) :
    IsWord isIdentChar tag ∧ ∀ c ∈ tag.head?, c.isAlpha = true := by
  cases start with
  | omitted | star => cases named
  | tag name =>
    obtain rfl := Option.some.inj named
    exact ⟨name.isWord, name.letter⟩

/-- Each qualifier of a link is one of its parts. -/
theorem WrittenLink.exists_part {link : WrittenLink} {α : Type} {field? : Qualifier → Option α}
    {value : α} (member : value ∈ link.qualifiers.filterMap field?) :
    ∃ part : Part, field? part.qualifier = some value := by
  obtain ⟨qualifier, held, found⟩ := List.mem_filterMap.mp member
  obtain ⟨⟨_, part⟩, _, rfl⟩ := List.mem_map.mp held
  exact ⟨part, found⟩

theorem WrittenLink.wellFormed (link : WrittenLink) : link.link.WellFormed where
  tag _ named := Start.wellFormed named
  id id last := by
    obtain ⟨part, found⟩ := exists_part (List.mem_of_getLast? last)
    cases part with
    | identifier space name => exact Option.some.inj found ▸ name.isWord
    | className | bracket => cases found
  classes name member := by
    obtain ⟨part, found⟩ := exists_part (NameSet.mem_ofList.mp member)
    cases part with
    | className space name => exact Option.some.inj found ▸ name.isWord
    | identifier | bracket => cases found
  condition condition last := by
    obtain ⟨part, found⟩ := exists_part (List.mem_of_getLast? last)
    cases part with
    | bracket inside => exact Option.some.inj found ▸ inside.wellFormed
    | identifier | className => cases found

theorem Chain.wellFormed (chain : Chain) : chain.selector.WellFormed := by
  induction chain with
  | last link => exact List.forall_mem_singleton.mpr link.wellFormed
  | parent link child ih => exact List.forall_mem_cons.mpr ⟨link.wellFormed, ih⟩

end Grammar

theorem wellFormed_of_parse {source : Text} {selector : Selector}
    (read : parse source = .ok selector) : selector.WellFormed := by
  obtain ⟨inhabited, readAll⟩ := parse_eq_ok_iff.mp read
  obtain ⟨chain, _, rfl⟩ := readLinks_sound readAll inhabited
  exact chain.wellFormed

end Selector

/-! ## The written form for any escapes -/

section Escape
variable (escape : Char → Text)

/-- The condition on the text that is written for the expected one. -/
def Condition.escaped (condition : Condition) : Condition :=
  { condition with expected := condition.expected.map fun expected => expected.flatMap escape }

def Link.escaped (link : Link) : Link :=
  { link with condition := link.condition.map fun condition => condition.escaped escape }

/-- The selector with the texts that are written for the expected ones. -/
def Selector.escaped : Selector → Selector
  | .last link => .last (link.escaped escape)
  | .parent link child => .parent (link.escaped escape) child.escaped

/-- Whether all expected texts are written as they are. -/
def Selector.Shown (selector : Selector) : Prop :=
  ∀ link ∈ selector.links, ∀ condition ∈ link.condition, ∀ expected ∈ condition.expected,
    ∀ c ∈ expected, escape c = [c]

instance (selector : Selector) : Decidable (selector.Shown escape) :=
  inferInstanceAs (Decidable (∀ link ∈ selector.links, ∀ condition ∈ link.condition,
    ∀ expected ∈ condition.expected, ∀ c ∈ expected, escape c = [c]))

/-- Whether no quotation mark is written between those around an expected text. -/
def Condition.Unmarked (condition : Condition) : Prop :=
  ∀ expected ∈ condition.expected, '"' ∉ expected.flatMap escape

def Link.Unmarked (link : Link) : Prop :=
  ∀ condition ∈ link.condition, condition.Unmarked escape

instance (link : Link) : Decidable (link.Unmarked escape) :=
  inferInstanceAs (Decidable (∀ condition ∈ link.condition, ∀ expected ∈ condition.expected,
    '"' ∉ expected.flatMap escape))

def Condition.renderWith (condition : Condition) : Text :=
  match condition.expected with
  | some expected =>
    '[' :: (condition.name ++ condition.mode.sign ++ '"' :: (expected.flatMap escape ++ ['"']) ++
      [']'])
  | none => '[' :: (condition.name ++ [']'])

def Selector.Qualifier.renderWith : Qualifier → Text
  | .identifier name => '#' :: name
  | .className name => '.' :: name
  | .bracket condition => condition.renderWith escape

/-- The qualifiers without the condition, as they are written. -/
def Link.marks (link : Link) : List Qualifier :=
  link.id.toList.map .identifier ++ link.classes.toList.map .className

/-- The qualifiers that make up a link, as they are written. -/
def Link.qualifiers (link : Link) : List Qualifier :=
  link.marks ++ link.condition.toList.map .bracket

/-- What a link is written with in front of its qualifiers. -/
def Link.start (link : Link) : Text :=
  match link.tag with
  | some tag => tag
  | none => if link.hasQualifiers then [] else ['*']

def Link.renderWith (link : Link) : Text :=
  link.start ++ link.qualifiers.flatMap (Qualifier.renderWith escape)

def Selector.renderWith : Selector → Text
  | .last link => link.renderWith escape
  | .parent link child => link.renderWith escape ++ ' ' :: '>' :: ' ' :: child.renderWith

end Escape

theorem Link.renderWith_escapeChar (link : Link) :
    link.renderWith (Text.escapeChar '"') = link.render := by
  obtain ⟨tag, id, classes, condition⟩ := link
  have same (condition : Condition) :
      condition.renderWith (Text.escapeChar '"') = condition.render := rfl
  cases tag <;> cases id <;> cases condition <;>
    simp [Link.renderWith, Link.render, Link.start, Link.qualifiers, Link.marks,
      Qualifier.renderWith, List.flatMap_map, same]

/-- The written form is the one with the escapes of quoted texts. -/
theorem Selector.renderWith_escapeChar (selector : Selector) :
    selector.renderWith (Text.escapeChar '"') = selector.render := by
  induction selector with
  | last link => exact link.renderWith_escapeChar
  | parent link child ih =>
    rw [Selector.renderWith, Selector.render, ih, link.renderWith_escapeChar]

section Shown
variable {escape : Char → Text}

theorem Selector.shown_parent {link : Link} {child : Selector} :
    (Selector.parent link child).Shown escape ↔
      (Selector.last link).Shown escape ∧ child.Shown escape := by
  simp [Selector.Shown, Selector.links]

theorem Link.escaped_of_shown {link : Link} (shown : (Selector.last link).Shown escape) :
    link.escaped escape = link := by
  obtain ⟨tag, id, classes, _ | ⟨name, _ | expected, mode⟩⟩ := link
  · rfl
  · rfl
  · have plain := shown _ (List.mem_singleton_self _) _ rfl expected rfl
    simp only [Link.escaped, Condition.escaped, Option.map_some, Text.flatMap_eq_of_shown plain]

/-- A selector is written for itself if nothing in it is escaped. -/
theorem Selector.escaped_of_shown {selector : Selector} (shown : selector.Shown escape) :
    selector.escaped escape = selector := by
  induction selector with
  | last link => exact congrArg Selector.last (Link.escaped_of_shown shown)
  | parent link child ih =>
    obtain ⟨here, there⟩ := shown_parent.mp shown
    rw [Selector.escaped, Link.escaped_of_shown here, ih there]

end Shown

/-! ## The written form is in the grammar -/

namespace Selector

namespace Grammar

/-- No white space. -/
def Space.nothing : Space := ⟨[], nofun⟩

def Space.single : Space := ⟨[' '], List.forall_mem_singleton.mpr (by decide)⟩

def Word.ofIsWord {p : Char → Bool} {text : Text} (word : IsWord p text) : Word p :=
  ⟨text, word.1, word.2⟩

end Grammar

section Written
variable {escape : Char → Text}

theorem exists_bracket {condition : Condition} (wellFormed : condition.WellFormed)
    (unmarked : condition.Unmarked escape) :
    ∃ inside : Bracket, inside.Plain ∧ '[' :: inside.text = condition.renderWith escape ∧
      inside.condition = condition.escaped escape := by
  obtain ⟨name, expected, mode⟩ := condition
  let word := Word.ofIsWord wellFormed.name
  cases expected with
  | none =>
    obtain rfl : mode = .present := wellFormed.expected.mp rfl
    exact ⟨⟨.nothing, word, .nothing, none⟩, nofun, rfl, rfl⟩
  | some expected =>
    have signed : mode ≠ .present := fun present => nomatch wellFormed.expected.mpr present
    let value : Value := .quoted '"' (expected.flatMap escape) (.inl rfl) (unmarked expected rfl)
    refine ⟨⟨.nothing, word, .nothing, some ⟨mode, signed, .nothing, value, .nothing⟩⟩,
      fun comparison found => Option.some.inj found ▸ trivial, ?_, rfl⟩
    simp [Bracket.text, Comparison.text, Value.text, Space.nothing, word, value, Word.ofIsWord,
      Condition.renderWith]

theorem exists_mark {link : Link} (wellFormed : link.WellFormed) {mark : Qualifier}
    (member : mark ∈ link.marks) :
    ∃ part : Part, part.Plain ∧ part.text = mark.renderWith escape ∧ part.qualifier = mark := by
  rcases List.mem_append.mp member with identifier | className
  · obtain ⟨id, held, rfl⟩ := List.mem_map.mp identifier
    exact ⟨.identifier .nothing (.ofIsWord (wellFormed.id id (by simpa using held))), trivial, rfl,
      rfl⟩
  · obtain ⟨name, held, rfl⟩ := List.mem_map.mp className
    exact ⟨.className .nothing (.ofIsWord (wellFormed.classes name held)), trivial, rfl, rfl⟩

theorem exists_parts {marks : List Qualifier}
    (each : ∀ mark ∈ marks, ∃ part : Part, part.Plain ∧ part.text = mark.renderWith escape ∧
      part.qualifier = mark) :
    ∃ parts : List (Space × Part), (∀ part ∈ parts, part.2.Plain) ∧
      partsText parts = marks.flatMap (Qualifier.renderWith escape) ∧
      parts.map (fun (_, part) => part.qualifier) = marks := by
  induction marks with
  | nil => exact ⟨[], nofun, rfl, rfl⟩
  | cons mark marks ih =>
    obtain ⟨⟨part, plain, written, same⟩, later⟩ := List.forall_mem_cons.mp each
    obtain ⟨parts, plains, writtens, sames⟩ := ih later
    refine ⟨(.nothing, part) :: parts, List.forall_mem_cons.mpr ⟨plain, plains⟩, ?_, ?_⟩
    · rw [List.flatMap_cons, ← written, ← writtens]
      rfl
    · rw [List.map_cons, sames]
      exact congrArg (· :: marks) same

/-- The qualifiers in front of the condition, as they are written. -/
theorem exists_marks (escape : Char → Text) {link : Link} (wellFormed : link.WellFormed) :
    ∃ parts : List (Space × Part), (∀ part ∈ parts, part.2.Plain) ∧
      partsText parts = link.marks.flatMap (Qualifier.renderWith escape) ∧
      parts.map (fun (_, part) => part.qualifier) = link.marks :=
  exists_parts fun _ => exists_mark wellFormed

theorem exists_start {link : Link} (wellFormed : link.WellFormed) :
    ∃ start : Start, start.text = link.start ∧ start.tag? = link.tag ∧
      (start = .omitted → link.hasQualifiers = true) := by
  obtain ⟨tag, id, classes, condition⟩ := link
  cases tag with
  | some tag =>
    obtain ⟨word, letter⟩ := wellFormed.tag tag rfl
    exact ⟨.tag ⟨.ofIsWord word, letter⟩, rfl, rfl, nofun⟩
  | none =>
    by_cases qualified : Link.hasQualifiers ⟨none, id, classes, condition⟩ = true
    · exact ⟨.omitted, by rw [Link.start, if_pos qualified]; rfl, rfl, fun _ => qualified⟩
    · exact ⟨.star, by rw [Link.start, if_neg qualified]; rfl, rfl, nofun⟩

theorem linkOf_append_bracket (tag : Option Text) (qualifiers : List Qualifier)
    (condition : Condition) :
    (linkOf tag (qualifiers ++ [.bracket condition])).condition = some condition := by
  rw [linkOf, List.foldl_append]
  rfl

/-- A link is made up of its qualifiers. -/
theorem linkOf_of_link (link : Link) : linkOf link.tag link.qualifiers = link := by
  obtain ⟨tag, id, classes, condition⟩ := link
  have identifiers : (Link.qualifiers ⟨tag, id, classes, condition⟩).filterMap
      Qualifier.identifier? = id.toList := by
    cases id <;> cases condition <;>
      simp [Link.qualifiers, Link.marks, Qualifier.identifier?, List.filterMap_cons]
  have classNames : (Link.qualifiers ⟨tag, id, classes, condition⟩).filterMap
      Qualifier.className? = classes.toList := by
    cases id <;> cases condition <;>
      simp [Link.qualifiers, Link.marks, Qualifier.className?, List.filterMap_cons,
        Function.comp_def]
  have conditions : (Link.qualifiers ⟨tag, id, classes, condition⟩).filterMap
      Qualifier.condition? = condition.toList := by
    cases id <;> cases condition <;>
      simp [Link.qualifiers, Link.marks, Qualifier.condition?, List.filterMap_cons]
  have collected : classes.toList.foldl NameSet.insert ∅ = classes := NameSet.ofList_toList classes
  rw [linkOf, foldl_addTo, identifiers, classNames, conditions]
  cases id <;> cases condition <;> simp [Link.any, collected]

theorem hasQualifiers_iff {link : Link} : link.hasQualifiers = true ↔ link.qualifiers ≠ [] := by
  obtain ⟨tag, id, ⟨names, sorted⟩, condition⟩ := link
  cases id <;> cases condition <;> cases names <;>
    simp [Link.hasQualifiers, Link.qualifiers, Link.marks, NameSet.isEmpty]

theorem exists_condition {link : Link} (wellFormed : link.WellFormed)
    (unmarked : link.Unmarked escape) :
    ∃ parts : List (Space × Part), (∀ part ∈ parts, part.2.Plain) ∧
      partsText parts = link.condition.toList.flatMap (Condition.renderWith escape) ∧
      parts.map (fun (_, part) => part.qualifier) =
        (link.escaped escape).condition.toList.map .bracket := by
  obtain ⟨tag, id, classes, condition⟩ := link
  cases condition with
  | none => exact ⟨[], nofun, rfl, rfl⟩
  | some condition =>
    obtain ⟨inside, plain, written, same⟩ :=
      exists_bracket (wellFormed.condition condition rfl) (unmarked condition rfl)
    refine ⟨[(.nothing, .bracket inside)], List.forall_mem_singleton.mpr plain, ?_, ?_⟩
    · simp [partsText, Part.text, Space.nothing, written]
    · simp [Part.qualifier, Link.escaped, same]

/-- A link is written as one of the grammar, whatever white space is around it. -/
theorem exists_link {link : Link} (wellFormed : link.WellFormed) (unmarked : link.Unmarked escape)
    (before after : Space) :
    ∃ written : WrittenLink, written.Plain ∧
      written.text = before.text ++ (link.renderWith escape ++ after.text) ∧
      written.link = link.escaped escape := by
  obtain ⟨start, startText, tag, omitted⟩ := exists_start wellFormed
  obtain ⟨marks, plainMarks, marksText, sameMarks⟩ := exists_marks escape wellFormed
  obtain ⟨brackets, plainBrackets, bracketsText, sameBrackets⟩ := exists_condition wellFormed unmarked
  have qualified : (marks ++ brackets).map (fun (_, part) => part.qualifier) =
      (link.escaped escape).qualifiers := by
    rw [List.map_append, sameMarks, sameBrackets]
    rfl
  have inhabited : start = .omitted → marks ++ brackets ≠ [] := fun none empty => by
    have some : (link.escaped escape).hasQualifiers = true := by
      simpa [Link.hasQualifiers, Link.escaped] using omitted none
    rw [hasQualifiers_iff, ← qualified, empty] at some
    exact some rfl
  refine ⟨⟨before, start, marks ++ brackets, after, inhabited⟩,
    List.forall_mem_append.mpr ⟨plainMarks, plainBrackets⟩, ?_, ?_⟩
  · have texts : partsText (marks ++ brackets) =
        link.qualifiers.flatMap (Qualifier.renderWith escape) := by
      rw [partsText, List.flatMap_append, ← partsText, ← partsText, marksText, bracketsText,
        Link.qualifiers, List.flatMap_append, List.flatMap_map]
      rfl
    rw [WrittenLink.text, startText, texts, Link.renderWith]
    simp only [List.append_assoc]
  · rw [← linkOf_qualifiers, WrittenLink.qualifiers, qualified, tag]
    exact linkOf_of_link (link.escaped escape)

theorem exists_chain {selector : Selector} (wellFormed : selector.WellFormed)
    (unmarked : ∀ link ∈ selector.links, link.Unmarked escape) (before : Space) :
    ∃ chain : Chain, chain.Plain ∧ chain.text = before.text ++ selector.renderWith escape ∧
      chain.selector = selector.escaped escape := by
  induction selector generalizing before with
  | last link =>
    obtain ⟨written, plain, text, same⟩ := exists_link (wellFormed link (List.mem_singleton_self _))
      (unmarked link (List.mem_singleton_self _)) before .nothing
    refine ⟨.last written, plain, ?_, congrArg Selector.last same⟩
    rw [Chain.text, text, Selector.renderWith]
    exact congrArg (before.text ++ ·) (List.append_nil _)
  | parent link child ih =>
    obtain ⟨wellFormedHere, wellFormedThere⟩ := List.forall_mem_cons.mp wellFormed
    obtain ⟨unmarkedHere, unmarkedThere⟩ := List.forall_mem_cons.mp unmarked
    obtain ⟨written, plain, text, same⟩ :=
      exists_link wellFormedHere unmarkedHere before .single
    obtain ⟨chain, plains, texts, sames⟩ := ih wellFormedThere unmarkedThere .single
    refine ⟨.parent written chain, ⟨plain, plains⟩, ?_, ?_⟩
    · rw [Chain.text, text, texts, Selector.renderWith]
      simp [Space.single]
    · rw [Chain.selector, same, sames, Selector.escaped]

theorem Grammar.Chain.Plain.parse_text {chain : Chain} (plain : chain.Plain) :
    parse chain.text = .ok chain.selector := by
  obtain ⟨first, rest, cut, inhabited, read⟩ := readLinks_complete plain
  rw [parse_eq_ok_iff, cut]
  exact ⟨inhabited, read⟩

/-- What is written is read as it is written, if there is no quotation mark among it. -/
theorem parse_renderWith {selector : Selector} (wellFormed : selector.WellFormed)
    (unmarked : ∀ link ∈ selector.links, link.Unmarked escape) :
    parse (selector.renderWith escape) = .ok (selector.escaped escape) := by
  obtain ⟨chain, plain, text, same⟩ := exists_chain wellFormed unmarked .nothing
  rw [← same, ← show chain.text = selector.renderWith escape from text]
  exact plain.parse_text

end Written

end Selector

end TagQuery
