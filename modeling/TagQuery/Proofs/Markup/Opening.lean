import TagQuery.Markup.Segment
import TagQuery.Proofs.Markup.Balance

/-!
# Opening tags

An opening tag is a `<`, a name, an area without `>`, and the first `>`. This module says how such
a tag is taken apart and what the cutting of a document makes of it: the tag alone, the tag of an
element that is never closed, or the element up to the closer that balances it.

Whether a tag leaves its element open is said here by its area and its category
(`LeavesOpen`); `endsAtOpening_eq_false_iff` ties it to the test that the cutting uses.
-/

namespace TagQuery.Markup

/-- The opening tag of a name; the area stands between the name and the `>`. -/
def openingTag (name area : Text) : Text := '<' :: (name ++ area ++ ['>'])

/-- A tag name with an area that may follow it in an opening tag. -/
structure IsOpening (name area : Text) : Prop extends IsTagName name where
  ends : ∀ c ∈ area.head?, Text.isWord c = false
  plain : '>' ∉ area

/-- Whether an opening tag leaves its element open: it does not close itself by a slash that
follows the name or white space, and its category runs to a closer. -/
def LeavesOpen (options : ScanOptions) (name area : Text) : Prop :=
  ¬ (area = ['/'] ∨ ∃ front c, Text.isSpace c = true ∧ area = front ++ [c, '/']) ∧
    match Category.ofName name with
    | .void => False
    | .wrapper => options.captureWrapperBodies = true
    | .nestable | .generic => True

theorem closesItself_iff {area : Text} :
    closesItself area = true ↔
      area = ['/'] ∨ ∃ front c, Text.isSpace c = true ∧ area = front ++ [c, '/'] := by
  unfold closesItself
  split
  · rename_i only
    have same : area = ['/'] := by simpa using congrArg List.reverse only
    simp [same]
  · rename_i c rest reversed
    have same : area = rest.reverse ++ [c, '/'] := by simpa using congrArg List.reverse reversed
    constructor
    · intro space
      exact .inr ⟨rest.reverse, c, space, same⟩
    · rintro (only | ⟨front, d, space, again⟩)
      · exact absurd (congrArg List.length (same.symm.trans only)) (by simp)
      · have last := (List.append_inj' (same.symm.trans again) rfl).2
        rw [(List.cons.inj last).1]
        exact space
  · rename_i noSlash noSpace
    constructor
    · intro closed
      cases closed
    · rintro (only | ⟨front, c, _, whole⟩)
      · exact (noSlash (by rw [only]; rfl)).elim
      · exact (noSpace c front.reverse (by simp [whole])).elim

theorem endsAtOpening_eq_false_iff {options : ScanOptions} {name area : Text} :
    endsAtOpening options name area = false ↔ LeavesOpen options name area := by
  rw [endsAtOpening, LeavesOpen, ← closesItself_iff, Bool.or_eq_false_iff, Bool.not_eq_true]
  cases Category.ofName name <;> simp

/-! ## Taking an opening tag apart -/

namespace IsOpening
variable {name area : Text} (opening : IsOpening name area)

include opening

theorem ends_before (rest : Text) :
    ∀ c ∈ (area ++ '>' :: rest).head?, Text.isWord c = false := by
  cases area with
  | nil => exact Text.stop_of_cons (by decide) rest
  | cons d area => exact opening.ends

theorem takeWhile_word (rest : Text) :
    (name ++ area ++ '>' :: rest).takeWhile Text.isWord = name := by
  rw [List.append_assoc]
  exact Text.takeWhile_run opening.word (opening.ends_before rest)

theorem splitAfter? (rest : Text) :
    Text.splitAfter? '>' (name ++ area ++ '>' :: rest) = some (name ++ area ++ ['>'], rest) := by
  apply Text.splitAfter?_append rest
  rw [List.mem_append, not_or]
  exact ⟨Text.notMem_of_word opening.word (by decide), opening.plain⟩

theorem tagName_openingTag (rest : Text) : tagName (openingTag name area ++ rest) = name := by
  have named := opening.takeWhile_word rest
  simpa [tagName, openingTag] using named

theorem splitAfter?_openingTag (rest : Text) :
    Text.splitAfter? '>' (openingTag name area ++ rest) = some (openingTag name area, rest) := by
  have absent : '>' ∉ '<' :: (name ++ area) := by
    simpa [opening.plain] using Text.notMem_of_word opening.word (by decide)
  have cut := Text.splitAfter?_append rest absent
  simpa [openingTag] using cut

omit opening in
theorem area_eq : ((name ++ area ++ ['>']).drop name.length).dropLast = area := by
  rw [List.append_assoc, List.drop_left, List.dropLast_concat]

theorem cutElement_eq (options : ScanOptions) (rest : Text) :
    cutElement options name (name ++ area ++ '>' :: rest) =
      if endsAtOpening options name area then (.tag (openingTag name area), rest)
      else
        match balance name 0 rest with
        | none => (.unclosed (openingTag name area), rest)
        | some (body, tail) =>
          (.element (openingTag name area) body (tail.take (name.length + 3)),
            tail.drop (name.length + 3)) := by
  rw [cutElement, opening.splitAfter? rest]
  dsimp only
  rw [area_eq]
  rfl

theorem notMem_tail (absent : '<' ∉ area) : '<' ∉ name ++ area ++ ['>'] := by
  simpa [absent] using Text.notMem_of_word opening.word (by decide)

theorem startsCloser_openingTag (other rest : Text) :
    startsCloser other (openingTag name area ++ rest) = false := by
  simp only [openingTag, List.cons_append, List.append_assoc]
  exact startsCloser_of_name opening.toIsTagName

theorem startsOpener_openingTag {other : Text} (tag : IsTagName other) (rest : Text) :
    startsOpener other (openingTag name area ++ rest) = Text.sameName other name := by
  simp only [openingTag, List.cons_append, List.append_assoc]
  exact startsOpener_name tag opening.word (opening.ends_before rest)

end IsOpening

theorem cutElement_of_notMem (options : ScanOptions) {name rest : Text} (absent : '>' ∉ rest) :
    cutElement options name rest = (.unterminated ('<' :: rest), []) := by
  simp only [cutElement, Text.splitAfter?_eq_none_iff.mpr absent]

/-- Names of word characters start neither a comment nor another aside. -/
theorem cutMarkup_of_name {name rest : Text} (options : ScanOptions) (tag : IsTagName name)
    (ends : ∀ c ∈ rest.head?, Text.isWord c = false) :
    cutMarkup options (name ++ rest) =
      if isLineBreak name then cutAside (name ++ rest)
      else cutElement options name (name ++ rest) := by
  have run := Text.takeWhile_run tag.word ends
  obtain ⟨c, inner, rfl⟩ := List.exists_cons_of_ne_nil tag.nonempty
  have word := tag.word c List.mem_cons_self
  have first (d : Char) (other : Text.isWord d = false) : c ≠ d := by
    rintro rfl
    rw [word] at other
    cases other
  unfold cutMarkup
  split
  · rename_i same
    exact (first '!' (by decide) (List.cons.inj same).1).elim
  · rename_i same
    exact (first '!' (by decide) (List.cons.inj same).1).elim
  · rename_i same
    exact (first '?' (by decide) (List.cons.inj same).1).elim
  · rename_i same
    exact (first '/' (by decide) (List.cons.inj same).1).elim
  · rw [run]
    rfl

theorem isTagName_of_isLineBreak {name : Text} (lineBreak : isLineBreak name = true) :
    IsTagName name := by
  refine ⟨?_, Text.isWord_of_sameName lineBreak (List.all_eq_true.mp (by decide))⟩
  rintro rfl
  exact absurd (Text.length_eq_of_sameName lineBreak) (by decide)

theorem IsOpening.cutMarkup_eq {name area : Text} (opening : IsOpening name area)
    (options : ScanOptions) (other : isLineBreak name = false) (rest : Text) :
    cutMarkup options (name ++ area ++ ['>'] ++ rest) =
      if endsAtOpening options name area then (.tag (openingTag name area), rest)
      else
        match balance name 0 rest with
        | none => (.unclosed (openingTag name area), rest)
        | some (body, tail) =>
          (.element (openingTag name area) body (tail.take (name.length + 3)),
            tail.drop (name.length + 3)) := by
  have cut := cutMarkup_of_name options opening.toIsTagName (opening.ends_before rest)
  rw [other, ← List.append_assoc] at cut
  rw [List.append_assoc, List.singleton_append, cut]
  exact opening.cutElement_eq options rest

theorem IsOpening.cutMarkup_element {name area rest body closing after : Text}
    {options : ScanOptions} (opening : IsOpening name area) (other : isLineBreak name = false)
    (leaves : LeavesOpen options name area)
    (found : balance name 0 rest = some (body, closing ++ after))
    (size : closing.length = name.length + 3) :
    cutMarkup options (name ++ area ++ ['>'] ++ rest) =
      (.element (openingTag name area) body closing, after) := by
  rw [opening.cutMarkup_eq options other, endsAtOpening_eq_false_iff.mpr leaves, found]
  simp only [Bool.false_eq_true, ↓reduceIte, ← size, List.take_left, List.drop_left]

end TagQuery.Markup
