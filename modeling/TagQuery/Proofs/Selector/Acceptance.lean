import TagQuery.Proofs.Selector.Links

/-!
# The parser accepts its grammar

A selector is read twice: it is first cut at every `>` outside brackets and quotation marks, and
then each piece is read as a link. A piece that is read is a link of the grammar wherever it was
cut, so that whatever is accepted is a chain of the grammar with its meaning.

The other way round the two readings have to agree on where values end. Quotation marks open a
quotation for the cutting wherever they stand in brackets, but for the reading of a link only at
the start of a value. They agree on chains in which only quoted values contain quotation marks:
there each link leaves the cutting where it found it (`keeps_link`), outside of all brackets.
-/

namespace TagQuery.Selector.Grammar

/-! ## Where links are cut -/

/-- The pieces of a text, with `>` between them, are the text. -/
theorem splitLinks_join (nesting : Nesting) (text : Text) :
    (splitLinks nesting text).1 ++ (splitLinks nesting text).2.flatMap ('>' :: ·) = text := by
  induction text generalizing nesting with
  | nil => rfl
  | cons c rest ih =>
    rw [splitLinks]
    split
    · rename_i cut
      rw [cut.1]
      exact congrArg ('>' :: ·) (ih .outside)
    · exact congrArg (c :: ·) (ih (nesting.next c))

/-- A text that is not cut anywhere, and leaves the characters after it in another place. -/
def Keeps (nesting : Nesting) (text : Text) (next : Nesting) : Prop :=
  ∀ rest, splitLinks nesting (text ++ rest) =
    (text ++ (splitLinks next rest).1, (splitLinks next rest).2)

section Keeps
variable {nesting next last : Nesting} {first second text : Text}

theorem Keeps.append (here : Keeps nesting first next) (there : Keeps next second last) :
    Keeps nesting (first ++ second) last := by
  intro rest
  rw [List.append_assoc, here, there, List.append_assoc]

theorem keeps_char (nesting : Nesting) (c : Char) (inside : ¬ (c = '>' ∧ nesting = .outside)) :
    Keeps nesting [c] (nesting.next c) := by
  intro rest
  rw [List.singleton_append, splitLinks, if_neg inside]
  rfl

theorem keeps_run (same : ∀ c ∈ text, nesting.next c = nesting)
    (inside : ∀ c ∈ text, ¬ (c = '>' ∧ nesting = .outside)) : Keeps nesting text nesting := by
  induction text with
  | nil => exact fun _ => rfl
  | cons c text ih =>
    have step := keeps_char nesting c (inside c List.mem_cons_self)
    rw [same c List.mem_cons_self] at step
    exact step.append (ih (fun d member => same d (List.mem_cons_of_mem _ member))
      fun d member => inside d (List.mem_cons_of_mem _ member))

theorem keeps_outside (uncut : '>' ∉ text) (unopened : '[' ∉ text) :
    Keeps .outside text .outside := by
  apply keeps_run
  · intro c member
    have other : c ≠ '[' := fun same => unopened (same ▸ member)
    rw [Nesting.next, if_neg other]
  · rintro c member ⟨rfl, _⟩
    exact uncut member

theorem keeps_bracketed (unquoted : '"' ∉ text ∧ '\'' ∉ text) (unclosed : ']' ∉ text) :
    Keeps .bracketed text .bracketed := by
  apply keeps_run
  · intro c member
    have mark : ¬ (c = '"' ∨ c = '\'') := by
      rintro (rfl | rfl)
      · exact unquoted.1 member
      · exact unquoted.2 member
    have other : c ≠ ']' := fun same => unclosed (same ▸ member)
    rw [Nesting.next, if_neg mark, if_neg other]
  · intro c _ cut
    cases cut.2

/-- A quotation is passed from its first mark to its last. -/
theorem keeps_quotation {mark : Char} (isMark : mark = '"' ∨ mark = '\'') {content : Text}
    (closed : mark ∉ content) : Keeps .bracketed (mark :: (content ++ [mark])) .bracketed := by
  have opens : Keeps .bracketed [mark] (.quoted mark) := by
    have step := keeps_char .bracketed mark (fun cut => by cases cut.2)
    rwa [Nesting.next, if_pos isMark] at step
  have within : Keeps (.quoted mark) content (.quoted mark) := by
    apply keeps_run
    · intro c member
      have other : c ≠ mark := fun same => closed (same ▸ member)
      rw [Nesting.next, if_neg other]
    · intro c _ cut
      cases cut.2
  have closes : Keeps (.quoted mark) [mark] .bracketed := by
    have step := keeps_char (.quoted mark) mark (fun cut => by cases cut.2)
    rwa [Nesting.next, if_pos rfl] at step
  exact opens.append (within.append closes)

end Keeps

/-! ## Tokens keep their place -/

theorem Space.notMem (space : Space) {c : Char} (mark : Text.isSpace c = false) :
    c ∉ space.text := fun member => by
  rw [space.blank c member] at mark
  cases mark

theorem Word.notMem {p : Char → Bool} (word : Word p) {c : Char} (outside : p c = false) :
    c ∉ word.text := fun member => by
  rw [word.inside c member] at outside
  cases outside

theorem keeps_space_outside (space : Space) : Keeps .outside space.text .outside :=
  keeps_outside (space.notMem (by decide)) (space.notMem (by decide))

theorem keeps_space_bracketed (space : Space) : Keeps .bracketed space.text .bracketed :=
  keeps_bracketed ⟨space.notMem (by decide), space.notMem (by decide)⟩ (space.notMem (by decide))

theorem keeps_identifier (word : Word isIdentChar) : Keeps .outside word.text .outside :=
  keeps_outside (word.notMem (by decide)) (word.notMem (by decide))

theorem keeps_name (word : Word isNameChar) : Keeps .bracketed word.text .bracketed :=
  keeps_bracketed ⟨word.notMem (by decide), word.notMem (by decide)⟩ (word.notMem (by decide))

theorem keeps_sign (mode : MatchMode) : Keeps .bracketed mode.sign .bracketed := by
  cases mode <;> exact keeps_bracketed (by decide) (by decide)

theorem keeps_value {value : Value} (plain : value.Plain) :
    Keeps .bracketed value.text .bracketed := by
  cases value with
  | quoted mark content isMark closed => exact keeps_quotation isMark closed
  | bare content closed => exact keeps_bracketed plain closed

theorem keeps_comparison {comparison : Option Comparison}
    (plain : ∀ found ∈ comparison, found.value.Plain) :
    Keeps .bracketed ((comparison.map Comparison.text).getD []) .bracketed := by
  cases comparison with
  | none => exact fun _ => rfl
  | some comparison =>
    exact (keeps_sign comparison.mode).append ((keeps_space_bracketed comparison.before).append
      ((keeps_value (plain comparison rfl)).append (keeps_space_bracketed comparison.after)))

theorem keeps_part {part : Part} (plain : part.Plain) : Keeps .outside part.text .outside := by
  cases part with
  | identifier space word =>
    exact (keeps_char .outside '#' (by decide)).append
      ((keeps_space_outside space).append (keeps_identifier word))
  | className space word =>
    exact (keeps_char .outside '.' (by decide)).append
      ((keeps_space_outside space).append (keeps_identifier word))
  | bracket inside =>
    exact (keeps_char .outside '[' (by decide)).append
      ((keeps_space_bracketed inside.before).append ((keeps_name inside.name).append
        ((keeps_space_bracketed inside.after).append ((keeps_comparison plain).append
          (keeps_char .bracketed ']' (by decide))))))

theorem keeps_parts {parts : List (Space × Part)} (plain : ∀ part ∈ parts, part.2.Plain) :
    Keeps .outside (partsText parts) .outside := by
  induction parts with
  | nil => exact fun _ => rfl
  | cons first later ih =>
    obtain ⟨here, there⟩ := List.forall_mem_cons.mp plain
    exact ((keeps_space_outside first.1).append (keeps_part here)).append (ih there)

theorem keeps_start (start : Start) : Keeps .outside start.text .outside := by
  cases start with
  | omitted => exact fun _ => rfl
  | star => exact keeps_outside (by decide) (by decide)
  | tag name => exact keeps_identifier name.toWord

theorem keeps_link {link : WrittenLink} (plain : link.Plain) :
    Keeps .outside link.text .outside :=
  (keeps_space_outside link.before).append ((keeps_start link.start).append
    ((keeps_parts plain).append (keeps_space_outside link.after)))

/-! ## Links are not blank -/

theorem allBlank_of_mem {text : Text} {c : Char} (member : c ∈ text)
    (ink : Text.isBlank c = false) : Text.allBlank text = false :=
  List.all_eq_false.mpr ⟨c, member, by simp [ink]⟩

/-- A link is not blank: it starts with a tag or `*`, or it has the mark of a qualifier. -/
theorem WrittenLink.allBlank_text (link : WrittenLink) : Text.allBlank link.text = false := by
  obtain ⟨before, start, parts, after, inhabited⟩ := link
  cases start with
  | star =>
    exact allBlank_of_mem (c := '*') (by simp [WrittenLink.text, Start.text]) (by decide)
  | tag name =>
    obtain ⟨c, more, whole⟩ := List.exists_cons_of_ne_nil name.nonempty
    have alpha := name.letter c (by rw [whole]; rfl)
    refine allBlank_of_mem (c := c) ?_ (Text.isBlank_of_isAlpha alpha)
    simp [WrittenLink.text, Start.text, whole]
  | omitted =>
    obtain ⟨⟨space, part⟩, later, rfl⟩ := List.exists_cons_of_ne_nil (inhabited rfl)
    cases part with
    | identifier =>
      exact allBlank_of_mem (c := '#') (by simp [WrittenLink.text, partsText, Part.text]) (by decide)
    | className =>
      exact allBlank_of_mem (c := '.') (by simp [WrittenLink.text, partsText, Part.text]) (by decide)
    | bracket =>
      exact allBlank_of_mem (c := '[') (by simp [WrittenLink.text, partsText, Part.text]) (by decide)

/-! ## Chains -/

theorem readLinks_sound {first : Text} {rest : List Text} {selector : Selector}
    (read : readLinks first rest = .ok selector)
    (inhabited : ∀ text ∈ first :: rest, Text.allBlank text = false) :
    ∃ chain : Chain, chain.text = first ++ rest.flatMap ('>' :: ·) ∧ chain.selector = selector := by
  induction rest generalizing first selector with
  | nil =>
    obtain ⟨link, found, rfl⟩ := exists_of_map_eq_ok read
    obtain ⟨written, rfl, rfl⟩ := readLink_sound found (inhabited first List.mem_cons_self)
    exact ⟨.last written, (List.append_nil _).symm, rfl⟩
  | cons next rest ih =>
    obtain ⟨child, readChild, later⟩ := exists_of_bind_eq_ok read
    obtain ⟨link, found, same⟩ := exists_of_bind_eq_ok later
    obtain rfl := Except.ok.inj same
    obtain ⟨here, there⟩ := List.forall_mem_cons.mp inhabited
    obtain ⟨chain, whole, rfl⟩ := ih readChild there
    obtain ⟨written, rfl, rfl⟩ := readLink_sound found here
    exact ⟨.parent written chain, by rw [Chain.text, whole]; rfl, rfl⟩

/-- A chain is cut into the texts of its links, and these are read as its selector. -/
theorem readLinks_complete {chain : Chain} (plain : chain.Plain) :
    ∃ first rest, splitLinks .outside chain.text = (first, rest) ∧
      (∀ text ∈ first :: rest, Text.allBlank text = false) ∧
        readLinks first rest = .ok chain.selector := by
  induction chain with
  | last link =>
    have cut := keeps_link plain []
    rw [List.append_nil] at cut
    refine ⟨link.text, [], by rw [Chain.text, cut]; simp [splitLinks], ?_, ?_⟩
    · intro text member
      rw [List.mem_singleton.mp member]
      exact link.allBlank_text
    · rw [readLinks, readLink_complete plain]
      rfl
  | parent link child ih =>
    obtain ⟨here, there⟩ := plain
    obtain ⟨first, rest, cutChild, inhabited, readChild⟩ := ih there
    have cut := keeps_link here ('>' :: child.text)
    rw [splitLinks, if_pos ⟨rfl, rfl⟩, cutChild, List.append_nil] at cut
    refine ⟨link.text, first :: rest, cut, ?_, ?_⟩
    · exact List.forall_mem_cons.mpr ⟨link.allBlank_text, inhabited⟩
    · rw [readLinks, readChild, readLink_complete here]
      rfl

theorem Chain.allBlank_text (chain : Chain) : Text.allBlank chain.text = false := by
  cases chain with
  | last link => exact link.allBlank_text
  | parent link child =>
    rw [Chain.text, Text.allBlank, List.all_append, ← Text.allBlank, link.allBlank_text]
    rfl

theorem WrittenLink.expected_eq_none_iff (link : WrittenLink) {condition : Condition}
    (asked : link.link.condition = some condition) :
    condition.expected = none ↔ condition.mode = .present := by
  obtain ⟨qualifier, member, bracket⟩ := List.mem_filterMap.mp (List.mem_of_getLast? asked)
  obtain ⟨⟨_, part⟩, _, rfl⟩ := List.mem_map.mp member
  cases part with
  | identifier => cases bracket
  | className => cases bracket
  | bracket inside =>
    obtain rfl := Option.some.inj bracket
    exact Grammar.expected_eq_none_iff

/-- In the selector of a chain only conditions on presence have no expected text. -/
theorem Chain.expected_eq_none_iff (chain : Chain) {link : Link}
    (member : link ∈ chain.selector.links) {condition : Condition}
    (asked : link.condition = some condition) :
    condition.expected = none ↔ condition.mode = .present := by
  induction chain with
  | last written =>
    obtain rfl := List.mem_singleton.mp member
    exact written.expected_eq_none_iff asked
  | parent written child ih =>
    rcases List.mem_cons.mp member with rfl | later
    · exact written.expected_eq_none_iff asked
    · exact ih later

end TagQuery.Selector.Grammar
