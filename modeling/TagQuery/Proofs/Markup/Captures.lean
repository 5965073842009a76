import TagQuery.Markup.Capture

/-!
# The slices of segments

What a segment gives does not depend on where in the document it stands; its position only decides
the spans of bodies. The slices of a document are therefore those of its segments, one after the
other (`slices_eq_flatMap`).
-/

namespace TagQuery.Markup

/-- The slices of a segment: itself if it is an element, with its fragments if it is refined. -/
def Segment.slices : Segment → List Slice
  | .tag opening => [.ofText opening .scanned]
  | .element opening body closing =>
    let text := opening ++ body ++ closing
    if (nested text).isEmpty then [.ofText text .scanned]
    else .ofText text .refined :: nested text
  | _ => []

theorem map_slice_captures (start : Nat) (segment : Segment) :
    (segment.captures start).map Capture.slice = segment.slices := by
  cases segment with
  | element opening body closing =>
    simp only [Segment.captures, Segment.slices]
    split
    · rfl
    · simp only [List.map_cons, List.map_map, Function.comp_def, List.map_id']
  | _ => rfl

theorem map_slice_captures_segments (start : Nat) (parts : List Segment) :
    (captures start parts).map Capture.slice = parts.flatMap Segment.slices := by
  induction parts generalizing start with
  | nil => rfl
  | cons segment rest ih =>
    rw [captures, List.map_append, map_slice_captures, ih, List.flatMap_cons]

/-- What is captured of consecutive segments is captured of one of them, where it stands. -/
theorem exists_segment_of_mem_captures {start : Nat} {parts : List Segment} {capture : Capture}
    (member : capture ∈ captures start parts) :
    ∃ front segment back, parts = front ++ segment :: back ∧
      capture ∈ segment.captures (start + (front.flatMap Segment.text).length) := by
  induction parts generalizing start with
  | nil => cases member
  | cons part parts ih =>
    rcases List.mem_append.mp member with here | later
    · exact ⟨[], part, parts, rfl, here⟩
    · obtain ⟨front, segment, back, rfl, inside⟩ := ih later
      refine ⟨part :: front, segment, back, rfl, ?_⟩
      rwa [List.flatMap_cons, List.length_append, ← Nat.add_assoc]

/-- The span of a body starts before it stops. -/
theorem start_le_stop_of_mem_captures {start : Nat} {parts : List Segment} {capture : Capture}
    (member : capture ∈ captures start parts) {span : Span} (found : capture.body? = some span) :
    span.start ≤ span.stop := by
  obtain ⟨front, segment, back, rfl, here⟩ := exists_segment_of_mem_captures member
  cases segment with
  | tag opening =>
    obtain rfl := List.mem_singleton.mp here
    cases found
  | element opening body closing =>
    simp only [Segment.captures] at here
    split at here
    · obtain rfl := List.mem_singleton.mp here
      obtain rfl := Option.some.inj found
      exact Nat.le_add_right _ _
    · rcases List.mem_cons.mp here with rfl | piece
      · cases found
      · obtain ⟨slice, _, rfl⟩ := List.mem_map.mp piece
        cases found
  | _ => cases here

theorem Span.of_whole (text : Text) : Span.of ⟨0, text.length⟩ text = text := by
  simp [Span.of]

/-- What lies in a span follows what is before it. -/
theorem Span.take_append_of {span : Span} (ordered : span.start ≤ span.stop) (text : Text) :
    text.take span.start ++ span.of text = text.take span.stop := by
  have front : text.take span.start = (text.take span.stop).take span.start := by
    rw [List.take_take, Nat.min_eq_left ordered]
  rw [front, Span.of, List.take_append_drop]

theorem slices_eq_map (options : ScanOptions) (html : Text) :
    slices options html =
      (captures 0 (segments options (html.filter (· != '\n')))).map Capture.slice := by
  rw [slices, Scanner.slices, Scanner.run, Scanner.ofText, List.nil_append, Scanner.window,
    Span.of_whole]

/-- The slices of a document are those of its segments. -/
theorem slices_eq_flatMap (options : ScanOptions) (html : Text) :
    slices options html =
      (segments options (html.filter (· != '\n'))).flatMap Segment.slices := by
  rw [slices_eq_map, map_slice_captures_segments]

theorem weight_le_of_mem {capture : Capture} {all : List Capture} (member : capture ∈ all) :
    capture.weight ≤ weight all := by
  induction all with
  | nil => cases member
  | cons first rest ih =>
    rw [weight_cons]
    rcases List.mem_cons.mp member with rfl | later
    · exact Nat.le_add_right _ _
    · exact Nat.le_add_left_of_le (ih later)

theorem origin_of_fragment? {piece : Text} {slice : Slice} (made : fragment? piece = some slice) :
    slice.origin = .fragment := by
  unfold fragment? at made
  dsimp only at made
  split at made
  · cases made
  · split at made
    · cases made
    · cases made
      rfl

theorem origin_of_mem_nested {text : Text} {slice : Slice} (member : slice ∈ nested text) :
    slice.origin = .fragment := by
  unfold nested fragments at member
  split at member
  · split at member
    · cases member
    · split at member
      · cases member
      · obtain ⟨piece, _, made⟩ := List.mem_filterMap.mp member
        exact origin_of_fragment? made
  · cases member

end TagQuery.Markup
