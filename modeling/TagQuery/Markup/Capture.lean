import TagQuery.Markup.Segment

/-!
# Captures

A capture is a slice with the span of its body, where the body can be scanned in turn. A scanner
holds a document without its line feeds, reads a window of it at a time and hands over the
captures of that window. Spans are counted in characters of the whole document, so the inside of
an element is read in place.

The weight of a capture is one more than the length of the body that it leaves to scan. Scanning
a window gives captures that together weigh no more than the window is long
(`weight_scan_le`), which is why descending into bodies comes to an end.
-/

namespace TagQuery.Markup

/-- The characters from `start` up to, not including, `stop`. -/
structure Span where
  start : Nat
  stop : Nat
deriving DecidableEq

/-- The number of characters in a span. -/
def Span.length (span : Span) : Nat := span.stop - span.start

/-- The characters of a text that lie in a span. -/
def Span.of (span : Span) (text : Text) : Text := (text.take span.stop).drop span.start

theorem Span.length_of_le (span : Span) (text : Text) : (span.of text).length ≤ span.length := by
  simp only [Span.of, Span.length, List.length_drop, List.length_take]
  omega

/-- A slice, and the span of its body if a closer of its own ends it and it is not refined. -/
structure Capture where
  slice : Slice
  body? : Option Span
deriving DecidableEq

/-- The captures of a segment that starts at a position of the document. -/
def Segment.captures (start : Nat) : Segment → List Capture
  | .tag opening => [⟨Slice.ofText opening .scanned, none⟩]
  | .element opening body closing =>
    let text := opening ++ body ++ closing
    let inside := start + opening.length
    if (nested text).isEmpty then
      [⟨Slice.ofText text .scanned, some ⟨inside, inside + body.length⟩⟩]
    else ⟨Slice.ofText text .refined, none⟩ :: (nested text).map fun slice => ⟨slice, none⟩
  | .characters _ | .bracket | .comment _ | .aside _ | .unterminated _ | .unclosed _ => []

/-- The captures of consecutive segments, the first of which starts at a position of the
document. -/
def captures (start : Nat) : List Segment → List Capture
  | [] => []
  | segment :: rest => segment.captures start ++ captures (start + segment.text.length) rest

/-- One more than the length of the body that is left to scan. -/
def Capture.weight (capture : Capture) : Nat := 1 + (capture.body?.map Span.length).getD 0

/-- What some captures weigh together. -/
def weight : List Capture → Nat
  | [] => 0
  | capture :: rest => capture.weight + weight rest

theorem weight_cons (capture : Capture) (rest : List Capture) :
    weight (capture :: rest) = capture.weight + weight rest := rfl

theorem weight_append (first second : List Capture) :
    weight (first ++ second) = weight first + weight second := by
  induction first with
  | nil => exact (Nat.zero_add _).symm
  | cons capture rest ih => rw [List.cons_append, weight_cons, weight_cons, ih, Nat.add_assoc]

theorem weight_withoutBodies (slices : List Slice) :
    weight (slices.map fun slice => ⟨slice, none⟩) = slices.length := by
  induction slices with
  | nil => rfl
  | cons slice rest ih =>
    rw [List.map_cons, weight_cons, ih, List.length_cons, Nat.add_comm]
    rfl

theorem weight_captures_element_le (start : Nat) (c : Char) (opening body closing : Text) :
    weight ((Segment.element (c :: opening) body closing).captures start) ≤
      (Segment.element (c :: opening) body closing).text.length := by
  have few := nested_length_le (c :: opening ++ body ++ closing)
  simp only [Segment.captures, Segment.text]
  split
  · simp only [weight, Capture.weight, Span.length, Option.map_some, Option.getD_some,
      List.length_append, List.length_cons]
    omega
  · rw [weight_cons, weight_withoutBodies]
    simp only [Capture.weight, Option.map_none, Option.getD_none, List.length_append,
      List.length_cons] at few ⊢
    omega

theorem weight_captures_cutElement_le (options : ScanOptions) (name rest : Text) (start : Nat) :
    weight ((cutElement options name rest).1.captures start) ≤
      (cutElement options name rest).1.text.length := by
  unfold cutElement
  split
  · exact Nat.zero_le _
  · split
    · simp [Segment.captures, weight, Capture.weight, Segment.text]
    · split
      · exact Nat.zero_le _
      · exact weight_captures_element_le ..

theorem captures_cutAside (rest : Text) (start : Nat) :
    (cutAside rest).1.captures start = [] := by
  unfold cutAside; split <;> rfl

theorem captures_cutComment (inside : Text) (start : Nat) :
    (cutComment inside).1.captures start = [] := by
  unfold cutComment; split <;> rfl

theorem weight_captures_cutMarkup_le (options : ScanOptions) (rest : Text) (start : Nat) :
    weight ((cutMarkup options rest).1.captures start) ≤
      (cutMarkup options rest).1.text.length := by
  unfold cutMarkup
  split
  · rw [captures_cutComment]; exact Nat.zero_le _
  · rw [captures_cutAside]; exact Nat.zero_le _
  · rw [captures_cutAside]; exact Nat.zero_le _
  · rw [captures_cutAside]; exact Nat.zero_le _
  · dsimp only
    split
    · exact Nat.zero_le _
    · split
      · rw [captures_cutAside]; exact Nat.zero_le _
      · exact weight_captures_cutElement_le ..

/-- The captures of a text weigh no more than the text is long. -/
theorem weight_captures_segments_le (options : ScanOptions) (text : Text) (start : Nat) :
    weight (captures start (segments options text)) ≤ text.length := by
  fun_induction segments options text generalizing start with
  | case1 => exact Nat.zero_le _
  | case2 rest ih =>
    have first := weight_captures_cutMarkup_le options rest start
    have later := ih (start + (cutMarkup options rest).1.text.length)
    have whole := congrArg List.length (cutMarkup_text options rest)
    rw [List.length_append] at whole
    rw [captures, weight_append, ← whole]
    exact Nat.add_le_add first later
  | case3 c rest _ ih =>
    rw [captures, weight_append]
    have later := ih (start + (Segment.characters (c :: rest.takeWhile (· != '<'))).text.length)
    have shorter := (List.dropWhile_suffix (l := rest) (· != '<')).length_le
    simp only [Segment.captures, weight, Nat.zero_add]
    exact Nat.le_succ_of_le (Nat.le_trans later shorter)

/-- A document and how far it has been read. -/
structure Scanner where
  options : ScanOptions
  /-- The document without line feeds. -/
  input : Text
  /-- The next character to read. -/
  position : Nat
  /-- Where reading ends. -/
  limit : Nat
  /-- What has been found and not been taken yet. -/
  captured : List Capture

namespace Scanner

/-- A scanner at the start of a document. Line feeds are dropped and no other white space. -/
def ofText (options : ScanOptions) (html : Text) : Scanner :=
  let input := html.filter (· != '\n')
  ⟨options, input, 0, input.length, []⟩

/-- The part of the document that is still to be read. -/
def window (scanner : Scanner) : Text := Span.of ⟨scanner.position, scanner.limit⟩ scanner.input

/-- Reads on to the limit. -/
def run (scanner : Scanner) : Scanner :=
  { scanner with
    position := scanner.limit
    captured := scanner.captured ++
      captures scanner.position (segments scanner.options scanner.window) }

/-- The slices found so far, in the order of the document. -/
def slices (scanner : Scanner) : List Slice := scanner.captured.map Capture.slice

/-- Reads a span of the document and hands over what has been found. -/
def scan (scanner : Scanner) (span : Span) : List Capture × Scanner :=
  let read := run { scanner with
    position := span.start
    limit := min span.stop scanner.input.length }
  (read.captured, { read with captured := [] })

theorem captured_scan (scanner : Scanner) (span : Span) : (scanner.scan span).2.captured = [] := rfl

/-- The captures of a span weigh no more than the span is long. -/
theorem weight_scan_le (scanner : Scanner) (span : Span) (taken : scanner.captured = []) :
    weight (scanner.scan span).1 ≤ span.length := by
  have bounded := weight_captures_segments_le scanner.options
    (Span.of ⟨span.start, min span.stop scanner.input.length⟩ scanner.input) span.start
  have inside := Span.length_of_le ⟨span.start, min span.stop scanner.input.length⟩ scanner.input
  simp only [scan, run, taken, List.nil_append, window]
  simp only [Span.length] at inside ⊢
  omega

end Scanner

/-- The slices of a document. -/
def slices (options : ScanOptions) (html : Text) : List Slice :=
  (Scanner.ofText options html).run.slices

end TagQuery.Markup
