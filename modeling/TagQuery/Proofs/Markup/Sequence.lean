import TagQuery.Proofs.Markup.Quiet

/-!
# Documents part by part

A segment that fits in front of the rest of a document is cut off there, and the rest is cut as if it
stood alone (`segments_of_fits`). The slices of a document are therefore put together from those of
its parts: characters, closers that close nothing and line breaks have none, a tag by itself is one,
and a closed element gives what its own text gives (`slicesIn_of_fits`).
-/

namespace TagQuery.Markup

/-- What fits in front of a rest is the first segment of the two. -/
theorem segments_of_fits {options : ScanOptions} {segment : Segment} {rest : Text}
    (fits : segment.Fits options rest) (markup : '<' ∈ segment.text) :
    segments options (segment.text ++ rest) = segment :: segments options rest := by
  obtain ⟨more, text, cut⟩ := cutMarkup_of_fits fits markup
  rw [text, List.cons_append, segments, if_pos rfl, cut]

/-! ## What fits -/

/-- By default a tag leaves its element open if its category has a body and no slash closes it. -/
theorem leavesOpen_default_iff {name area : Text} :
    LeavesOpen {} name area ↔ (closesItself area || !(Category.ofName name).hasBody) = false := by
  rw [← endsAtOpening_eq_false_iff, endsAtOpening]
  cases Category.ofName name <;> rfl

theorem fits_closer {name : Text} (tag : IsTagName name) (rest : Text) :
    (Segment.aside (closer name)).Fits {} rest := by
  have absent : '>' ∉ '/' :: name := by
    simpa using Text.notMem_of_word tag.word (by decide)
  refine ⟨'/' :: (name ++ ['>']), rfl, .inr (.inr (.inl ⟨name ++ ['>'] ++ rest, rfl⟩)), ?_⟩
  exact reaches_char_iff.mpr (.inl ⟨'/' :: name, rfl, absent⟩)

theorem fits_comment {content : Text} (closed : ¬ ['-', '-', '>'] <:+: content) (rest : Text) :
    (Segment.comment (comment content)).Fits {} rest := by
  have shorter : (content ++ ['-', '-', '>']).dropLast = content ++ ['-'] ++ ['-'] := by simp
  have hyphen (text : Text) : ¬ ['-', '-', '>'] <:+ text ++ ['-'] := by
    rintro ⟨front, same⟩
    have last := congrArg List.getLast? same
    simp at last
  refine ⟨content ++ ['-', '-', '>'], rfl, .inl ⟨List.suffix_append _ _, ?_⟩⟩
  rw [shorter, List.infix_concat_iff, List.infix_concat_iff]
  rintro (ends | ends | inside)
  · exact hyphen _ ends
  · exact hyphen _ ends
  · exact closed inside

theorem Matched.balancesFirst {name body : Text} (matched : Matched name body)
    (tag : IsTagName name) (rest : Text) :
    BalancesFirst name (body ++ closer name ++ rest) body (closer name) := by
  have balances := matched.balances tag (Text.sameName_refl name)
  obtain ⟨closing, tail, same, _, first⟩ :=
    (balance_eq_some_iff tag).mp (matched.balance_closer tag rest)
  have size := balances.length_closing.trans first.balances.length_closing.symm
  obtain ⟨rfl, _⟩ := List.append_inj same size
  rwa [List.append_assoc]

namespace IsOpening
variable {name area : Text} (opening : IsOpening name area)

include opening

theorem fits_lineBreak (lineBreak : isLineBreak name = true) (rest : Text) :
    (Segment.aside (openingTag name area)).Fits {} rest := by
  have absent : '>' ∉ name ++ area := by
    simpa [opening.plain] using Text.notMem_of_word opening.word (by decide)
  refine ⟨name ++ area ++ ['>'], rfl, .inr (.inr (.inr ⟨name, area ++ '>' :: rest, ?_, lineBreak,
    opening.ends_before rest⟩)), reaches_char_iff.mpr (.inl ⟨name ++ area, rfl, absent⟩)⟩
  simp

theorem fits_tag (other : isLineBreak name = false) (ends : ¬ LeavesOpen {} name area)
    (rest : Text) : (Segment.tag (openingTag name area)).Fits {} rest :=
  ⟨name, area, rfl, opening, other, ends⟩

theorem fits_element {body : Text} (other : isLineBreak name = false)
    (leaves : LeavesOpen {} name area) (matched : Matched name body) (rest : Text) :
    (Segment.element (openingTag name area) body (closer name)).Fits {} rest :=
  ⟨name, area, rfl, opening, other, leaves, matched.balancesFirst opening.toIsTagName rest⟩

end IsOpening

/-! ## Slices -/

/-- The slices of a document without line feeds. -/
def slicesIn (text : Text) : List Slice := (segments {} text).flatMap Segment.slices

theorem slices_eq_slicesIn (html : Text) :
    slices {} html = slicesIn (html.filter (· != '\n')) := slices_eq_flatMap {} html

theorem slicesIn_nil : slicesIn [] = [] := by
  rw [slicesIn, segments, List.flatMap_nil]

theorem slicesIn_cons_of_ne {c : Char} (other : c ≠ '<') (rest : Text) :
    slicesIn (c :: rest) = slicesIn rest := by
  have skipped : slicesIn (c :: rest) = slicesIn (rest.dropWhile (· != '<')) := by
    rw [slicesIn, segments, if_neg other]
    rfl
  rw [skipped]
  cases rest with
  | nil => rfl
  | cons d rest =>
    by_cases markup : d = '<'
    · rw [List.dropWhile_cons, if_neg (by simp [markup])]
    · rw [List.dropWhile_cons, if_pos (by simp [markup]), slicesIn, slicesIn, segments,
        if_neg markup]
      rfl

theorem slicesIn_append_of_notMem {run : Text} (absent : '<' ∉ run) (rest : Text) :
    slicesIn (run ++ rest) = slicesIn rest := by
  induction run with
  | nil => rfl
  | cons c run ih =>
    obtain ⟨other, later⟩ := not_or.mp (mt List.mem_cons.mpr absent)
    rw [List.cons_append, slicesIn_cons_of_ne (Ne.symm other), ih later]

/-- A segment gives its slices in front of those of the rest. -/
theorem slicesIn_of_fits {segment : Segment} {rest : Text} (fits : segment.Fits {} rest)
    (markup : '<' ∈ segment.text) :
    slicesIn (segment.text ++ rest) = segment.slices ++ slicesIn rest := by
  rw [slicesIn, segments_of_fits fits markup, List.flatMap_cons, slicesIn]

end TagQuery.Markup
