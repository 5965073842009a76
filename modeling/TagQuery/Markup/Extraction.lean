import TagQuery.Markup.Element
import TagQuery.Markup.Capture

/-!
# Extraction

The elements of a document. Shallow extraction gives one element for each slice. Deep extraction
also looks into the elements that were cut out whole: right after such an element come the
elements of its inner text, and so on at any depth.

Deep extraction reads bodies in place and keeps the levels that are still to be visited in a
list, innermost first. Each capture weighs more than all the captures of its body, so that the
weight of what is pending goes down with each capture that is visited.
-/

namespace TagQuery

/-- How far extraction looks. -/
inductive ExtractMode where
  /-- One element for each slice. -/
  | shallow
  /-- The elements inside other elements as well. -/
  | deep
deriving DecidableEq, Repr

namespace ExtractMode

instance : Inhabited ExtractMode := ⟨.shallow⟩

/-- The word for a mode. -/
def word : ExtractMode → Text
  | .shallow => "shallow".toList
  | .deep => "deep".toList

/-- The mode of a word, which has to be in lower case. -/
def ofWord? (word : Text) : Option ExtractMode :=
  if word = "shallow".toList then some .shallow
  else if word = "deep".toList then some .deep
  else none

end ExtractMode

namespace Markup

/-- The elements whose body is not markup. -/
def rawTextNames : List Text := ["script", "style", "textarea"].map String.toList

/-- Whether the body of a tag name is not markup. -/
def isRawText (name : Text) : Bool := rawTextNames.any (Text.sameName · name)

/-- Whether deep extraction looks for elements inside the element of a slice. -/
def descends (slice : Slice) (element : Element) : Bool :=
  slice.origin == .scanned && !isRawText slice.name && element.innerText.any (· == '<')

/-- The body to scan after an element, if deep extraction looks for elements inside it. -/
def bodyToScan? (capture : Capture) (element : Element) : Option Span :=
  if descends capture.slice element then capture.body? else none

theorem weight_of_bodyToScan? {capture : Capture} {element : Element} {body : Span}
    (found : bodyToScan? capture element = some body) : capture.weight = 1 + body.length := by
  unfold bodyToScan? at found
  split at found
  · simp [Capture.weight, found]
  · cases found

/-- What all pending levels weigh. -/
def pendingWeight : List (List Capture) → Nat
  | [] => 0
  | level :: levels => weight level + pendingWeight levels

/-- How far pending levels are from the end: what they weigh, and then how many they are. -/
abbrev Nearer (next now : List (List Capture)) : Prop :=
  Prod.Lex (· < ·) (· < ·) (pendingWeight next, next.length) (pendingWeight now, now.length)

theorem pendingWeight_cons (level : List Capture) (levels : List (List Capture)) :
    pendingWeight (level :: levels) = weight level + pendingWeight levels := rfl

theorem decreases_of_done (levels : List (List Capture)) : Nearer levels ([] :: levels) := by
  refine Prod.lex_def.mpr (.inr ⟨?_, Nat.lt_succ_self _⟩)
  rw [pendingWeight_cons]
  exact (Nat.zero_add _).symm

theorem decreases_of_visited (capture : Capture) (level : List Capture)
    (levels : List (List Capture)) : Nearer (level :: levels) ((capture :: level) :: levels) := by
  refine Prod.lex_def.mpr (.inl ?_)
  simp only [pendingWeight_cons, weight_cons, Capture.weight]
  omega

theorem decreases_of_descended {capture : Capture} {body : Span} {inside : List Capture}
    (level : List Capture) (levels : List (List Capture)) (lighter : weight inside ≤ body.length)
    (heavier : capture.weight = 1 + body.length) :
    Nearer (inside :: level :: levels) ((capture :: level) :: levels) := by
  refine Prod.lex_def.mpr (.inl ?_)
  simp only [pendingWeight_cons, weight_cons]
  omega

/-- A scanner that has handed over everything it found. -/
structure IdleScanner where
  scanner : Scanner
  idle : scanner.captured = []

/-- Reads a span of the document. -/
def IdleScanner.scan (reader : IdleScanner) (span : Span) : List Capture × IdleScanner :=
  ((reader.scanner.scan span).1, ⟨(reader.scanner.scan span).2, Scanner.captured_scan ..⟩)

/-- The elements of the pending levels, each followed by the elements of its body. -/
def visit (reader : IdleScanner) : List (List Capture) → List Element
  | [] => []
  | [] :: levels => visit reader levels
  | (capture :: level) :: levels =>
    match Element.ofSlice? capture.slice.text with
    | none => visit reader (level :: levels)
    | some element =>
      element ::
        match _descent : bodyToScan? capture element with
        | none => visit reader (level :: levels)
        | some body => visit (reader.scan body).2 ((reader.scan body).1 :: level :: levels)
termination_by levels => (pendingWeight levels, levels.length)
decreasing_by
  · exact decreases_of_done levels
  · exact decreases_of_visited capture level levels
  · exact decreases_of_visited capture level levels
  · exact decreases_of_descended level levels
      (reader.scanner.weight_scan_le body reader.idle) (weight_of_bodyToScan? _descent)

/-- The elements of a document, one for each slice. -/
def extractShallow (html : Text) : List Element :=
  (slices {} html).filterMap fun slice => Element.ofSlice? slice.text

/-- The elements of a document, each followed by the elements inside it. -/
def extractDeep (html : Text) : List Element :=
  let scanner := Scanner.ofText {} html
  let read := IdleScanner.scan ⟨scanner, rfl⟩ ⟨0, scanner.input.length⟩
  visit read.2 [read.1]

/-- The elements of a document in the given mode. -/
def extract (mode : ExtractMode) (html : Text) : List Element :=
  match mode with
  | .shallow => extractShallow html
  | .deep => extractDeep html

end Markup

end TagQuery
