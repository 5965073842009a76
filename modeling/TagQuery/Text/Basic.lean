/-!
# Texts

A text is the list of its characters. Markup gives a meaning to ASCII only: names, tags and
qualifiers are made of ASCII letters, digits and marks, and names are compared without regard to
ASCII case. This module holds those character classes, the comparison, and the ways of cutting a
text at a character or at a pattern.

The cutting lemmas say two things of each cut: nothing is lost, and the rest is no longer than
what was cut.
-/

namespace TagQuery

/-- A text, character by character. -/
abbrev Text := List Char

namespace Text

/-- Every ASCII letter in its lower-case form; all other characters stay. -/
def lower (text : Text) : Text := text.map Char.toLower

/-- Equality of names, which disregards ASCII case. -/
def sameName (first second : Text) : Bool := lower first == lower second

/-- Word characters make up tag names: ASCII letters, digits and the underscore. -/
def isWord (c : Char) : Bool := c.isAlphanum || c == '_'

/-- White space inside tags and selectors: space, tab, line feed, form feed, carriage return. -/
def isSpace (c : Char) : Bool :=
  c == ' ' || c == '\t' || c == '\n' || c == '\x0c' || c == '\r'

/-- A text without its leading white space. -/
def skipSpace (text : Text) : Text := text.dropWhile isSpace

theorem skipSpace_length_le (text : Text) : (skipSpace text).length ≤ text.length :=
  (List.dropWhile_suffix isSpace).length_le

/-- What follows the pattern at the start of a text, compared without regard to ASCII case. -/
def stripIgnoringCase? : Text → Text → Option Text
  | [], text => some text
  | _ :: _, [] => none
  | p :: pattern, c :: text =>
    if p.toLower = c.toLower then stripIgnoringCase? pattern text else none

/-- What follows the pattern at the start of a text. -/
def strip? : Text → Text → Option Text
  | [], text => some text
  | _ :: _, [] => none
  | p :: pattern, c :: text => if p = c then strip? pattern text else none

theorem strip?_eq_some_iff {pattern text rest : Text} :
    strip? pattern text = some rest ↔ text = pattern ++ rest := by
  induction pattern generalizing text with
  | nil => simp [strip?, eq_comm]
  | cons p pattern ih =>
    cases text with
    | nil => simp [strip?]
    | cons c text =>
      by_cases same : p = c
      · simp [strip?, same, ih]
      · simp [strip?, same, Ne.symm same]

/-- Whether the pattern stands at the start of a text. -/
def startsWith (pattern text : Text) : Bool := (strip? pattern text).isSome

/-- Whether the pattern stands at the end of a text. -/
def endsWith (pattern text : Text) : Bool := startsWith pattern.reverse text.reverse

/-- Whether the pattern stands anywhere in a text. -/
def contains (pattern : Text) : Text → Bool
  | [] => pattern.isEmpty
  | c :: text => startsWith pattern (c :: text) || contains pattern text

/-- A text cut after the first occurrence of a character: the part that ends in it, and the
rest. -/
def splitAfter? (stop : Char) (text : Text) : Option (Text × Text) :=
  match text.dropWhile (· != stop) with
  | [] => none
  | c :: rest => some (text.takeWhile (· != stop) ++ [c], rest)

theorem append_of_splitAfter? {stop : Char} {text front rest : Text}
    (cut : splitAfter? stop text = some (front, rest)) : front ++ rest = text := by
  unfold splitAfter? at cut
  split at cut
  · cases cut
  · rename_i c after found
    cases cut
    have whole := List.takeWhile_append_dropWhile (p := (· != stop)) (l := text)
    rw [found] at whole
    simpa using whole

/-- A text cut after the first occurrence of a pattern: the part that ends in it, and the rest. -/
def splitAfterPattern? (pattern : Text) : Text → Option (Text × Text)
  | [] => (strip? pattern []).map fun rest => (pattern, rest)
  | c :: text =>
    match strip? pattern (c :: text) with
    | some rest => some (pattern, rest)
    | none => (splitAfterPattern? pattern text).map fun (front, rest) => (c :: front, rest)

theorem append_of_splitAfterPattern? {pattern text front rest : Text}
    (cut : splitAfterPattern? pattern text = some (front, rest)) : front ++ rest = text := by
  induction text generalizing front with
  | nil =>
    obtain ⟨after, stripped, same⟩ := Option.map_eq_some_iff.mp cut
    cases same
    exact (strip?_eq_some_iff.mp stripped).symm
  | cons c text ih =>
    unfold splitAfterPattern? at cut
    split at cut
    · rename_i after stripped
      cases cut
      exact (strip?_eq_some_iff.mp stripped).symm
    · obtain ⟨⟨inner, after⟩, found, same⟩ := Option.map_eq_some_iff.mp cut
      cases same
      simp [ih found]

/-- The text before the last occurrence of a pattern. -/
def beforeLast? (pattern : Text) : Text → Option Text
  | [] => none
  | c :: text =>
    match beforeLast? pattern text with
    | some front => some (c :: front)
    | none => if startsWith pattern (c :: text) then some [] else none

/-- The parts of a text between the characters that separate; always at least one, and some of
them may be empty. -/
def splitWhere (separates : Char → Bool) : Text → List Text
  | [] => [[]]
  | c :: text =>
    if separates c then [] :: splitWhere separates text
    else
      match splitWhere separates text with
      | part :: parts => (c :: part) :: parts
      | [] => [[c]]

end Text

end TagQuery
