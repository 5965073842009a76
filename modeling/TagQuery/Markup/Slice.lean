import TagQuery.Markup.Tag

/-!
# Slices and fragments

A slice is the text of one element, from the `<` of its opening tag to the `>` at which it ends.
Most slices are cut out of a document as they stand. A nestable slice that contains an opener of
its own name is refined: cut before every further `<`, each piece that opens a tag becomes a
slice too, a fragment, which gets the closers that it lacks.
-/

namespace TagQuery

/-- Where a slice comes from. -/
inductive Origin where
  /-- Cut out of the document. -/
  | scanned
  /-- Cut out of the document, and followed by its fragments. -/
  | refined
  /-- A piece of the refined slice before it, with closers added. -/
  | fragment
deriving DecidableEq, Repr

/-- The word for an origin. -/
def Origin.word : Origin → Text
  | .scanned => "scanned".toList
  | .refined => "refined".toList
  | .fragment => "fragment".toList

/-- The text of one element. -/
structure Slice where
  text : Text
  /-- The name in the opening tag, as written. -/
  name : Text
  origin : Origin
deriving DecidableEq

namespace Slice

/-- The category of the slice's name. -/
def category (slice : Slice) : Category := Category.ofName slice.name

/-- The slice of a text that starts with an opening tag. -/
def ofText (text : Text) (origin : Origin) : Slice := ⟨text, Markup.tagName text, origin⟩

end Slice

namespace Markup

/-- The pieces of a text from each `<` to before the next; what stands before the first is left
out. -/
def pieces : Text → List Text
  | [] => []
  | c :: rest =>
    if c = '<' then (c :: rest.takeWhile (· != '<')) :: pieces (rest.dropWhile (· != '<'))
    else pieces rest
termination_by text => text.length
decreasing_by
  · exact Nat.lt_succ_of_le (List.dropWhile_suffix _).length_le
  · exact Nat.lt_succ_self _

/-- The fragment that a piece becomes. There is none for closers, comments and line breaks, nor
for a tag that does not end inside the piece. Void tags, wrappers and tags that close themselves
keep their opening tag only. -/
def fragment? (piece : Text) : Option Slice :=
  let name := tagName piece
  if name.isEmpty || isLineBreak name then none
  else
    match Text.splitAfter? '>' piece with
    | none => none
    | some (opening, _) =>
      let area := (opening.drop (name.length + 1)).dropLast
      let text :=
        if closesItself area || !(Category.ofName name).hasBody then opening
        else closeUnmatched name piece
      some ⟨text, name, .fragment⟩

/-- The fragments of a slice: none unless an opener of the slice's own name follows its opening
tag. -/
def fragments (slice : Text) : List Slice :=
  match Text.splitAfter? '>' slice with
  | none => []
  | some (_, inside) =>
    if countOpeners (tagName slice) inside = 0 then []
    else (pieces (slice.drop 1)).filterMap fragment?

/-- The slices that follow a slice: its fragments if it is nestable. -/
def nested (slice : Text) : List Slice :=
  if Category.ofName (tagName slice) = .nestable then fragments slice else []

theorem pieces_length_le (text : Text) : (pieces text).length ≤ text.length := by
  fun_induction pieces text with
  | case1 => exact Nat.le_refl _
  | case2 rest ih =>
    exact Nat.succ_le_succ (Nat.le_trans ih (List.dropWhile_suffix _).length_le)
  | case3 c rest _ ih => exact Nat.le_succ_of_le ih

/-- A slice has fewer fragments than characters. -/
theorem fragments_length_le (slice : Text) : (fragments slice).length ≤ slice.length - 1 := by
  unfold fragments
  split
  · exact Nat.zero_le _
  · split
    · exact Nat.zero_le _
    · have kept := List.length_filterMap_le fragment? (pieces (slice.drop 1))
      have cut := pieces_length_le (slice.drop 1)
      rw [List.length_drop] at cut
      exact Nat.le_trans kept cut

theorem nested_length_le (slice : Text) : (nested slice).length ≤ slice.length - 1 := by
  unfold nested
  split
  · exact fragments_length_le slice
  · exact Nat.zero_le _

end Markup

end TagQuery
