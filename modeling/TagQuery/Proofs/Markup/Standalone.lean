import TagQuery.Proofs.Markup.Fragments
import TagQuery.Proofs.Markup.Sequence
import TagQuery.Proofs.Selector.Findings

/-!
# Slices by themselves

A slice holds everything that decided where it ends: its opening tag, and all the openers and
closers up to the closer that balances it. What stands behind it in the document has no part in
that, so that an element that fits in front of a rest also fits alone (`Segment.Fits.alone`). A
fragment lacks nothing either, since it got its closer when it was made
(`exists_segment_of_fragment?`). Taken as a document of its own, the text of a slice therefore gives
the slice again, and its fragments if it is refined.
-/

namespace TagQuery.Markup

/-! ## Elements with nothing after them -/

theorem BalancesFirst.alone {name body closing rest : Text}
    (first : BalancesFirst name (body ++ closing ++ rest) body closing) :
    BalancesFirst name (body ++ closing ++ []) body closing where
  balances := first.balances
  within := List.prefix_append _ _
  first other tag within balances := by
    rw [List.append_nil] at within
    exact first.first other tag (within.trans (List.prefix_append _ rest)) balances

/-- An element fits where nothing follows it. -/
theorem Segment.Fits.alone {options : ScanOptions} {segment : Segment} {rest : Text}
    (fits : segment.Fits options rest) (element : segment.isSlice = true) :
    segment.Fits options [] := by
  cases segment with
  | tag opening => exact fits
  | element opening body closing =>
    obtain ⟨name, area, whole, opening, other, leaves, first⟩ := fits
    exact ⟨name, area, whole, opening, other, leaves, first.alone⟩
  | _ => cases element

theorem markup_of_isSlice {options : ScanOptions} {segment : Segment} {rest : Text}
    (fits : segment.Fits options rest) (element : segment.isSlice = true) : '<' ∈ segment.text := by
  cases segment with
  | tag opening =>
    obtain ⟨name, area, rfl, _⟩ := fits
    exact List.mem_cons_self
  | element opening body closing =>
    obtain ⟨name, area, rfl, _⟩ := fits
    exact List.mem_cons_self
  | _ => cases element

/-- The text of an element, as a document, has the slices of the element. -/
theorem slices_of_fits {segment : Segment} (fits : segment.Fits {} [])
    (element : segment.isSlice = true) (oneLine : '\n' ∉ segment.text) :
    slices {} segment.text = segment.slices := by
  have whole := slicesIn_of_fits fits (markup_of_isSlice fits element)
  rw [List.append_nil, slicesIn_nil, List.append_nil] at whole
  rw [slices_eq_slicesIn, List.filter_eq_self.mpr (Text.all_bne_of_notMem oneLine), whole]

/-! ## Fragments -/

/-- A plain text and the closer after it are not searched for fragments. -/
theorem IsOpening.nested_plain {name area run : Text} (opening : IsOpening name area)
    (unopened : '<' ∉ area) (plain : '<' ∉ run) :
    nested (openingTag name area ++ run ++ closer name) = [] := by
  have tag := opening.toIsTagName
  have openers : countOpeners name (run ++ closer name) = 0 := by
    rw [countOpeners_append_of_notMem plain, countOpeners_closer tag (Text.sameName_refl name)]
  rw [List.append_assoc, opening.nested_openingTag unopened, openers]
  exact if_neg fun refined => refined.2 rfl

/-- A fragment is an element of its own, and the only slice of that element. -/
theorem exists_segment_of_fragment? {tail : Text} {slice : Slice} (plain : '<' ∉ tail)
    (made : fragment? ('<' :: tail) = some slice) :
    ∃ segment : Segment, segment.Fits {} [] ∧ segment.isSlice = true ∧
      segment.text = slice.text ∧ segment.slices = [{ slice with origin := .scanned }] := by
  obtain ⟨name, area, run, opening, other, unopened, noneAfter, rfl⟩ :=
    exists_parts_of_fragment? plain made
  have named := opening.tagName_openingTag
  cases alone : closesItself area || !(Category.ofName name).hasBody with
  | true =>
    have ends : ¬ LeavesOpen {} name area := by rw [leavesOpen_default_iff, alone]; exact nofun
    have own := named []
    rw [List.append_nil] at own
    refine ⟨.tag (openingTag name area), opening.fits_tag other ends [], rfl, rfl, ?_⟩
    simp only [Segment.slices, Slice.ofText, own, ↓reduceIte]
  | false =>
    have leaves : LeavesOpen {} name area := leavesOpen_default_iff.mpr alone
    have own := named (run ++ closer name)
    rw [← List.append_assoc] at own
    refine ⟨.element (openingTag name area) run (closer name),
      opening.fits_element other leaves (matched_of_notMem noneAfter) [], rfl, rfl, ?_⟩
    simp only [Segment.slices, opening.nested_plain unopened noneAfter, Slice.ofText, own,
      List.isEmpty_nil, ↓reduceIte, Bool.false_eq_true]

/-! ## Documents -/

/-- An element gives a slice of its whole text, and its fragments after it if it is refined. -/
theorem exists_slices_of_isSlice {segment : Segment} (element : segment.isSlice = true) :
    ∃ origin pieces, segment.slices = .ofText segment.text origin :: pieces ∧
      (origin = .scanned ∧ pieces = [] ∨ origin = .refined ∧ pieces = nested segment.text) := by
  cases segment with
  | tag opening => exact ⟨.scanned, [], rfl, .inl ⟨rfl, rfl⟩⟩
  | element opening body closing =>
    simp only [Segment.slices]
    split
    · exact ⟨.scanned, [], rfl, .inl ⟨rfl, rfl⟩⟩
    · exact ⟨.refined, _, rfl, .inr ⟨rfl, rfl⟩⟩
  | _ => cases element

theorem slices_of_not_isSlice {segment : Segment} (other : segment.isSlice = false) :
    segment.slices = [] := by
  cases segment with
  | tag _ | element _ _ _ => cases other
  | _ => rfl

/-- What follows the fragments of a segment does not start with a fragment. -/
theorem takeWhile_fragments {pieces : List Slice} (own : ∀ piece ∈ pieces, piece.origin = .fragment)
    (parts : List Segment) :
    (pieces ++ parts.flatMap Segment.slices).takeWhile (·.origin == .fragment) = pieces := by
  have none : (parts.flatMap Segment.slices).takeWhile (·.origin == .fragment) = [] := by
    induction parts with
    | nil => rfl
    | cons part parts ih =>
      rw [List.flatMap_cons]
      cases element : part.isSlice with
      | false => rwa [slices_of_not_isSlice element]
      | true =>
        obtain ⟨origin, later, whole, kinds⟩ := exists_slices_of_isSlice element
        rw [whole, List.cons_append, List.takeWhile_cons_of_neg]
        rcases kinds with ⟨rfl, _⟩ | ⟨rfl, _⟩ <;> exact nofun
  rw [List.takeWhile_append_of_pos fun piece member => by simp [own piece member], none,
    List.append_nil]

/-- A slice of some segments is a slice of one of them. -/
theorem exists_of_flatMap_slices {parts : List Segment} {before after : List Slice} {slice : Slice}
    (whole : parts.flatMap Segment.slices = before ++ slice :: after) :
    ∃ front segment back earlier later, parts = front ++ segment :: back ∧
      segment.slices = earlier ++ slice :: later ∧
      after = later ++ back.flatMap Segment.slices := by
  induction parts generalizing before with
  | nil => simp at whole
  | cons part parts ih =>
    rw [List.flatMap_cons] at whole
    rcases List.append_eq_append_iff.mp whole with ⟨more, _, tail⟩ | ⟨more, own, tail⟩
    · obtain ⟨front, segment, back, found⟩ := ih tail
      exact ⟨part :: front, segment, back, by simpa using found⟩
    · cases more with
      | nil =>
        have rest : parts.flatMap Segment.slices = [] ++ slice :: after := tail.symm
        obtain ⟨front, segment, back, found⟩ := ih rest
        exact ⟨part :: front, segment, back, by simpa using found⟩
      | cons first more =>
        obtain ⟨rfl, rfl⟩ := List.cons.inj tail
        exact ⟨[], part, parts, before, more, rfl, own, rfl⟩

/-- As a document of its own, the text of a slice gives that slice. A refined one is followed by the
fragments that follow it in the whole document, and a fragment is cut out as it stands. -/
theorem slices_standAlone {html : Text} {before after : List Slice} {slice : Slice}
    (whole : slices {} html = before ++ slice :: after) :
    slices {} slice.text =
      match slice.origin with
      | .scanned => [slice]
      | .refined => slice :: after.takeWhile (·.origin == .fragment)
      | .fragment => [{ slice with origin := .scanned }] := by
  have member : slice ∈ slices {} html := by simp [whole]
  have oneLine : '\n' ∉ slice.text := oneLine_of_mem_slices member
  rw [slices_eq_slicesIn] at whole
  obtain ⟨front, segment, back, earlier, later, split, own, rfl⟩ := exists_of_flatMap_slices whole
  have element : segment.isSlice = true := by
    by_contra other
    simp [slices_of_not_isSlice (Bool.eq_false_iff.mpr other)] at own
  have fits := (fits_segments split).2.alone element
  obtain ⟨origin, pieces, cut, kinds⟩ := exists_slices_of_isSlice element
  cases earlier with
  | nil =>
    -- The slice is the whole segment.
    obtain ⟨rfl, rfl⟩ := List.cons.inj (cut.symm.trans own)
    have again : slices {} segment.text = _ := slices_of_fits fits element oneLine
    rw [Slice.ofText, again, cut]
    rcases kinds with ⟨rfl, rfl⟩ | ⟨rfl, rfl⟩
    · rfl
    · exact congrArg (_ :: ·) (takeWhile_fragments (fun _ => origin_of_mem_nested) back).symm
  | cons first earlier =>
    -- The slice is one of the fragments.
    have inside : slice ∈ pieces := by
      rw [(List.cons.inj (cut.symm.trans own)).2]
      simp
    rcases kinds with ⟨_, rfl⟩ | ⟨_, rfl⟩
    · cases inside
    · obtain ⟨tail, plain, _, made⟩ := exists_of_mem_nested inside
      obtain ⟨alone, fitsAlone, elementAlone, text, single⟩ := exists_segment_of_fragment? plain made
      have again := slices_of_fits fitsAlone elementAlone (text ▸ oneLine)
      rw [text, single] at again
      rw [again, origin_of_mem_nested inside]

/-- An item with another one in it, and an element after it. -/
theorem slices_standAlone_items :
    let outer := Slice.ofText "<li>a<li b>c<i></li></li>".toList .refined
    let inner := Slice.ofText "<li b>c</li>".toList .fragment
    let mark := Slice.ofText "<i></i>".toList .fragment
    let last := Slice.ofText "<u></u>".toList .scanned
    slices {} "<li>a<li b>c<i></li></li>\n<u></u>".toList = [] ++ outer :: [inner, mark, last] ∧
      slices {} outer.text = [outer, inner, mark] ∧
      slices {} inner.text = [{ inner with origin := .scanned }] ∧ slices {} last.text = [last] := by
  intro outer inner mark last
  have whole : slices {} "<li>a<li b>c<i></li></li>\n<u></u>".toList =
      [outer, inner, mark, last] := by decide +kernel
  have second : slices {} "<li>a<li b>c<i></li></li>\n<u></u>".toList =
      [outer] ++ inner :: [mark, last] := whole
  have fourth : slices {} "<li>a<li b>c<i></li></li>\n<u></u>".toList =
      [outer, inner, mark] ++ last :: [] := whole
  have first : slices {} "<li>a<li b>c<i></li></li>\n<u></u>".toList =
      [] ++ outer :: [inner, mark, last] := whole
  exact ⟨whole, slices_standAlone first, slices_standAlone second, slices_standAlone fourth⟩

end TagQuery.Markup
