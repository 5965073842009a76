import TagQuery.Markup.Slice

/-!
# Segments of a document

A document without line feeds is a sequence of segments: runs of characters, comments and other
asides, and the elements with the tags that are not elements. `segments` cuts a document into
them, and `segments_text` says that nothing is lost and nothing is read twice.

Only two kinds of segments are elements and give slices: a tag that is an element by itself, and
an opening tag with the body and the closer that balance it.
-/

namespace TagQuery

/-- What may be chosen about the cutting of a document. -/
structure ScanOptions where
  /-- Whether a wrapper runs to its closer, as generic elements do, and hides its children. -/
  captureWrapperBodies : Bool := false
deriving DecidableEq, Repr

namespace Markup

/-- One part of a document. -/
inductive Segment where
  /-- Characters without `<`. -/
  | characters (run : Text)
  /-- A `<` that starts nothing. -/
  | bracket
  /-- From `<!--` to `-->`, or to the end of the document. -/
  | comment (text : Text)
  /-- A declaration, an instruction, a closer that closes nothing or a line break, to its `>` or
  to the end of the document. -/
  | aside (text : Text)
  /-- An opening tag without `>`; it reaches to the end of the document. -/
  | unterminated (text : Text)
  /-- An opening tag whose element is never closed. -/
  | unclosed (opening : Text)
  /-- A tag that is an element by itself. -/
  | tag (opening : Text)
  /-- An element that is closed by a closer of its own. -/
  | element (opening body closing : Text)
deriving DecidableEq

/-- The part of the document that a segment is. -/
def Segment.text : Segment → Text
  | .characters run => run
  | .bracket => ['<']
  | .comment text | .aside text | .unterminated text => text
  | .unclosed opening | .tag opening => opening
  | .element opening body closing => opening ++ body ++ closing

/-- Cuts an aside after its `>`; `rest` follows the `<` that starts it. -/
def cutAside (rest : Text) : Segment × Text :=
  match Text.splitAfter? '>' rest with
  | some (front, after) => (.aside ('<' :: front), after)
  | none => (.aside ('<' :: rest), [])

/-- Cuts a comment after its `-->`; `inside` follows the `<!--` that starts it. -/
def cutComment (inside : Text) : Segment × Text :=
  match Text.splitAfterPattern? ['-', '-', '>'] inside with
  | some (front, after) => (.comment ('<' :: '!' :: '-' :: '-' :: front), after)
  | none => (.comment ('<' :: '!' :: '-' :: '-' :: inside), [])

/-- Whether an element ends with its opening tag; `area` stands between the name and the `>`. -/
def endsAtOpening (options : ScanOptions) (name area : Text) : Bool :=
  closesItself area ||
    match Category.ofName name with
    | .void => true
    | .wrapper => !options.captureWrapperBodies
    | .nestable | .generic => false

/-- Cuts what an opening tag starts; `rest` follows its `<`. -/
def cutElement (options : ScanOptions) (name rest : Text) : Segment × Text :=
  match Text.splitAfter? '>' rest with
  | none => (.unterminated ('<' :: rest), [])
  | some (front, after) =>
    if endsAtOpening options name (front.drop name.length).dropLast then
      (.tag ('<' :: front), after)
    else
      match balance name 0 after with
      | none => (.unclosed ('<' :: front), after)
      | some (body, tail) =>
        (.element ('<' :: front) body (tail.take (name.length + 3)), tail.drop (name.length + 3))

/-- Cuts the segment that starts with a `<`; `rest` follows that `<`. -/
def cutMarkup (options : ScanOptions) (rest : Text) : Segment × Text :=
  match rest with
  | '!' :: '-' :: '-' :: inside => cutComment inside
  | '!' :: _ | '?' :: _ | '/' :: _ => cutAside rest
  | _ =>
    let name := rest.takeWhile Text.isWord
    if name.isEmpty then (.bracket, rest)
    else if isLineBreak name then cutAside rest
    else cutElement options name rest

theorem cutAside_text (rest : Text) :
    (cutAside rest).1.text ++ (cutAside rest).2 = '<' :: rest := by
  unfold cutAside
  split
  · rename_i front after cut
    exact congrArg ('<' :: ·) (Text.append_of_splitAfter? cut)
  · simp [Segment.text]

theorem cutComment_text (inside : Text) :
    (cutComment inside).1.text ++ (cutComment inside).2 = '<' :: '!' :: '-' :: '-' :: inside := by
  unfold cutComment
  split
  · rename_i front after cut
    simp [Segment.text, Text.append_of_splitAfterPattern? cut]
  · simp [Segment.text]

theorem cutElement_text (options : ScanOptions) (name rest : Text) :
    (cutElement options name rest).1.text ++ (cutElement options name rest).2 = '<' :: rest := by
  unfold cutElement
  split
  · simp [Segment.text]
  · rename_i front after cut
    have whole := Text.append_of_splitAfter? cut
    split
    · simp [Segment.text, whole]
    · split
      · simp [Segment.text, whole]
      · rename_i body tail found
        simp [Segment.text, append_of_balance found, whole]

/-- Cutting loses nothing. -/
theorem cutMarkup_text (options : ScanOptions) (rest : Text) :
    (cutMarkup options rest).1.text ++ (cutMarkup options rest).2 = '<' :: rest := by
  unfold cutMarkup
  split
  · exact cutComment_text _
  · exact cutAside_text _
  · exact cutAside_text _
  · exact cutAside_text _
  · dsimp only
    split
    · rfl
    · split
      · exact cutAside_text _
      · exact cutElement_text ..

theorem cutAside_text_pos (rest : Text) : 0 < (cutAside rest).1.text.length := by
  unfold cutAside; split <;> simp [Segment.text]

theorem cutComment_text_pos (inside : Text) : 0 < (cutComment inside).1.text.length := by
  unfold cutComment; split <;> simp [Segment.text]

theorem cutElement_text_pos (options : ScanOptions) (name rest : Text) :
    0 < (cutElement options name rest).1.text.length := by
  unfold cutElement
  split
  · simp [Segment.text]
  · split
    · simp [Segment.text]
    · split <;> simp [Segment.text]

/-- Each segment has at least one character. -/
theorem cutMarkup_text_pos (options : ScanOptions) (rest : Text) :
    0 < (cutMarkup options rest).1.text.length := by
  unfold cutMarkup
  split
  · exact cutComment_text_pos _
  · exact cutAside_text_pos _
  · exact cutAside_text_pos _
  · exact cutAside_text_pos _
  · dsimp only
    split
    · exact Nat.one_pos
    · split
      · exact cutAside_text_pos _
      · exact cutElement_text_pos ..

theorem cutMarkup_length_le (options : ScanOptions) (rest : Text) :
    (cutMarkup options rest).2.length ≤ rest.length := by
  have whole := congrArg List.length (cutMarkup_text options rest)
  have positive := cutMarkup_text_pos options rest
  simp only [List.length_append, List.length_cons] at whole
  omega

/-- The segments of a document. -/
def segments (options : ScanOptions) : Text → List Segment
  | [] => []
  | c :: rest =>
    if c = '<' then
      (cutMarkup options rest).1 :: segments options (cutMarkup options rest).2
    else
      .characters (c :: rest.takeWhile (· != '<')) :: segments options (rest.dropWhile (· != '<'))
termination_by text => text.length
decreasing_by
  · exact Nat.lt_succ_of_le (cutMarkup_length_le options rest)
  · exact Nat.lt_succ_of_le (List.dropWhile_suffix _).length_le

/-- The segments of a document, one after the other, are the document. -/
theorem segments_text (options : ScanOptions) (text : Text) :
    (segments options text).flatMap Segment.text = text := by
  fun_induction segments options text with
  | case1 => rfl
  | case2 rest ih =>
    rw [List.flatMap_cons, ih]
    exact cutMarkup_text options rest
  | case3 c rest _ ih =>
    rw [List.flatMap_cons, ih]
    exact congrArg (c :: ·) List.takeWhile_append_dropWhile

end Markup

end TagQuery
