import TagQuery.Proofs.Markup.Captures
import TagQuery.Proofs.Markup.Opening

/-!
# The tiling of a document

What it means for a segment to stand where it stands, in front of a given rest of the document
(`Segment.Fits`), said without the cutting: where its text ends, and for an opening tag whether a
closer in the rest balances it. A text in front of a rest is at most one segment
(`eq_of_fits`), and cutting finds it: `fits_cutMarkup` says that what is cut off fits, and
`cutMarkup_of_fits` that whatever fits is cut off.

`segments_tile` puts this together for a whole document, and says which slices the segments give.
-/

namespace TagQuery.Markup

/-- A text that ends with the first occurrence of a pattern, or else has none and is the last of
the document. -/
def Reaches (pattern text rest : Text) : Prop :=
  pattern <:+ text ∧ ¬ pattern <:+: text.dropLast ∨ ¬ pattern <:+: text ∧ rest = []

/-- What follows the `<` of a declaration, an instruction, a closer or a line break. -/
def StartsAside (text : Text) : Prop :=
  (∃ tail, text = '!' :: tail ∧ ¬ ['-', '-'] <+: tail) ∨ (∃ tail, text = '?' :: tail) ∨
    (∃ tail, text = '/' :: tail) ∨
    ∃ name tail, text = name ++ tail ∧ isLineBreak name = true ∧
      ∀ c ∈ tail.head?, Text.isWord c = false

/-- Whether a segment may stand in front of the rest of a document. -/
def Segment.Fits (options : ScanOptions) (rest : Text) : Segment → Prop
  | .characters run => run ≠ [] ∧ '<' ∉ run
  | .bracket => ∀ c ∈ rest.head?, Text.isWord c = false ∧ c ≠ '!' ∧ c ≠ '?' ∧ c ≠ '/'
  | .comment text => ∃ inside, text = '<' :: '!' :: '-' :: '-' :: inside ∧
      Reaches ['-', '-', '>'] inside rest
  | .aside text => ∃ more, text = '<' :: more ∧ StartsAside (more ++ rest) ∧ Reaches ['>'] more rest
  | .unterminated text => ∃ name area, text = '<' :: (name ++ area) ∧ IsOpening name area ∧
      isLineBreak name = false ∧ rest = []
  | .unclosed opening => ∃ name area, opening = openingTag name area ∧ IsOpening name area ∧
      isLineBreak name = false ∧ LeavesOpen options name area ∧
      ∀ body closing, body ++ closing <+: rest → ¬ Balances name body closing
  | .tag opening => ∃ name area, opening = openingTag name area ∧ IsOpening name area ∧
      isLineBreak name = false ∧ ¬ LeavesOpen options name area
  | .element opening body closing => ∃ name area, opening = openingTag name area ∧
      IsOpening name area ∧ isLineBreak name = false ∧ LeavesOpen options name area ∧
      BalancesFirst name (body ++ closing ++ rest) body closing

/-- Whether a segment is an element of the document. -/
def Segment.isSlice : Segment → Bool
  | .tag _ | .element .. => true
  | _ => false

/-! ## Asides and comments -/

theorem reaches_char_iff {stop : Char} {text rest : Text} :
    Reaches [stop] text rest ↔
      (∃ before, text = before ++ [stop] ∧ stop ∉ before) ∨ stop ∉ text ∧ rest = [] := by
  unfold Reaches
  rw [List.singleton_infix_iff, List.singleton_infix_iff]
  refine or_congr_left ⟨?_, ?_⟩
  · rintro ⟨⟨before, rfl⟩, absent⟩
    rw [List.dropLast_concat] at absent
    exact ⟨before, rfl, absent⟩
  · rintro ⟨before, rfl, absent⟩
    rw [List.dropLast_concat]
    exact ⟨List.suffix_append before [stop], absent⟩

theorem cutAside_eq_iff {whole rest : Text} {segment : Segment} :
    cutAside whole = (segment, rest) ↔
      ∃ more, segment = .aside ('<' :: more) ∧ whole = more ++ rest ∧
        Reaches ['>'] more rest := by
  unfold cutAside
  constructor
  · intro cut
    split at cut
    · rename_i front after found
      cases cut
      obtain ⟨before, rfl, rfl, absent⟩ := Text.splitAfter?_eq_some_iff.mp found
      exact ⟨_, rfl, by simp, reaches_char_iff.mpr (.inl ⟨before, rfl, absent⟩)⟩
    · rename_i uncut
      cases cut
      have absent := Text.splitAfter?_eq_none_iff.mp uncut
      exact ⟨whole, rfl, (List.append_nil whole).symm, reaches_char_iff.mpr (.inr ⟨absent, rfl⟩)⟩
  · rintro ⟨more, rfl, rfl, reaches⟩
    rcases reaches_char_iff.mp reaches with ⟨before, rfl, absent⟩ | ⟨absent, rfl⟩
    · have cut := Text.splitAfter?_append rest absent
      simp only [List.append_assoc, List.singleton_append, cut]
    · simp only [List.append_nil, Text.splitAfter?_eq_none_iff.mpr absent]

theorem cutComment_eq_iff {whole rest : Text} {segment : Segment} :
    cutComment whole = (segment, rest) ↔
      ∃ inside, segment = .comment ('<' :: '!' :: '-' :: '-' :: inside) ∧ whole = inside ++ rest ∧
        Reaches ['-', '-', '>'] inside rest := by
  have nonempty : ['-', '-', '>'] ≠ [] := List.cons_ne_nil _ _
  unfold cutComment
  constructor
  · intro cut
    split at cut
    · rename_i front after found
      cases cut
      obtain ⟨split, first⟩ := (Text.splitAfterPattern?_eq_some_iff nonempty).mp found
      exact ⟨front, rfl, split, .inl first⟩
    · rename_i uncut
      cases cut
      have absent := Text.splitAfterPattern?_eq_none_iff.mp uncut
      exact ⟨whole, rfl, (List.append_nil whole).symm, .inr ⟨absent, rfl⟩⟩
  · rintro ⟨inside, rfl, rfl, first | ⟨absent, rfl⟩⟩
    · have cut := (Text.splitAfterPattern?_eq_some_iff nonempty).mpr
        ⟨(rfl : inside ++ rest = inside ++ rest), first⟩
      simp only [cut]
    · simp only [List.append_nil, Text.splitAfterPattern?_eq_none_iff.mpr absent]

/-! ## What is cut off fits -/

theorem fits_cutElement (options : ScanOptions) {name rest : Text} (tag : IsTagName name)
    (other : isLineBreak name = false) (ends : ∀ c ∈ rest.head?, Text.isWord c = false) :
    (cutElement options name (name ++ rest)).1.Fits options
      (cutElement options name (name ++ rest)).2 := by
  by_cases closed : '>' ∈ rest
  · obtain ⟨area, after, rfl, plain⟩ := List.eq_append_cons_of_mem closed
    have opening : IsOpening name area := by
      refine ⟨tag, ?_, plain⟩
      cases area with
      | nil => simp
      | cons c area => exact ends
    rw [← List.append_assoc, opening.cutElement_eq]
    cases open_ : endsAtOpening options name area with
    | true =>
      refine ⟨name, area, rfl, opening, other, fun leaves => ?_⟩
      rw [endsAtOpening_eq_false_iff.mpr leaves] at open_
      cases open_
    | false =>
      have leaves := endsAtOpening_eq_false_iff.mp open_
      cases found : balance name 0 after with
      | none => exact ⟨name, area, rfl, opening, other, leaves, (balance_eq_none_iff tag).mp found⟩
      | some result =>
        obtain ⟨body, tail⟩ := result
        obtain ⟨closing, tail, rfl, rfl, first⟩ := (balance_eq_some_iff tag).mp found
        have size := first.balances.length_closing
        simp only [Bool.false_eq_true, ↓reduceIte, ← size, List.take_left, List.drop_left]
        exact ⟨name, area, rfl, opening, other, leaves, by simpa using first⟩
  · have absent : '>' ∉ name ++ rest := by
      rw [List.mem_append, not_or]
      exact ⟨Text.notMem_of_word tag.word (by decide), closed⟩
    rw [cutElement_of_notMem options absent]
    exact ⟨name, rest, rfl, ⟨tag, ends, closed⟩, other, rfl⟩

/-- What can follow a `<`: a comment, another aside, nothing that makes it markup, or a name. -/
theorem markup_cases (whole : Text) :
    (∃ inside, whole = '!' :: '-' :: '-' :: inside) ∨ StartsAside whole ∨
      (∀ c ∈ whole.head?, Text.isWord c = false ∧ c ≠ '!' ∧ c ≠ '?' ∧ c ≠ '/') ∨
      ∃ name rest, whole = name ++ rest ∧ IsTagName name ∧ isLineBreak name = false ∧
        ∀ c ∈ rest.head?, Text.isWord c = false := by
  obtain ⟨name, rest, rfl, word, ends⟩ := Text.exists_run Text.isWord whole
  cases name with
  | cons c name =>
    cases lineBreak : isLineBreak (c :: name) with
    | true => exact .inr (.inl (.inr (.inr (.inr ⟨_, rest, rfl, lineBreak, ends⟩))))
    | false => exact .inr (.inr (.inr ⟨_, rest, rfl, ⟨List.cons_ne_nil _ _, word⟩, lineBreak, ends⟩))
  | nil =>
    cases rest with
    | nil => exact .inr (.inr (.inl fun c first => by cases first))
    | cons c rest =>
      rw [List.nil_append]
      by_cases exclaims : c = '!'
      · subst exclaims
        by_cases dashes : ['-', '-'] <+: rest
        · obtain ⟨inside, rfl⟩ := dashes
          exact .inl ⟨inside, rfl⟩
        · exact .inr (.inl (.inl ⟨rest, rfl, dashes⟩))
      · by_cases asks : c = '?'
        · exact .inr (.inl (.inr (.inl ⟨rest, by rw [asks]⟩)))
        · by_cases slash : c = '/'
          · exact .inr (.inl (.inr (.inr (.inl ⟨rest, by rw [slash]⟩))))
          · refine .inr (.inr (.inl fun d first => ?_))
            obtain rfl := Option.some.inj first
            exact ⟨ends c rfl, exclaims, asks, slash⟩

theorem cutMarkup_of_startsAside (options : ScanOptions) {whole : Text}
    (starts : StartsAside whole) : cutMarkup options whole = cutAside whole := by
  rcases starts with ⟨tail, rfl, plain⟩ | ⟨tail, rfl⟩ | ⟨tail, rfl⟩ | ⟨name, tail, rfl, br, ends⟩
  · unfold cutMarkup
    split
    · rename_i inside same
      exact (plain ⟨inside, (List.cons.inj same).2.symm⟩).elim
    · rfl
    · rename_i same
      cases same
    · rename_i same
      cases same
    · rename_i other _ _
      exact (other tail rfl).elim
  · rfl
  · rfl
  · rw [cutMarkup_of_name options (isTagName_of_isLineBreak br) ends, if_pos br]

theorem cutMarkup_of_bracket (options : ScanOptions) {whole : Text}
    (plain : ∀ c ∈ whole.head?, Text.isWord c = false ∧ c ≠ '!' ∧ c ≠ '?' ∧ c ≠ '/') :
    cutMarkup options whole = (.bracket, whole) := by
  unfold cutMarkup
  split
  · exact absurd rfl (plain '!' rfl).2.1
  · exact absurd rfl (plain '!' rfl).2.1
  · exact absurd rfl (plain '?' rfl).2.2.1
  · exact absurd rfl (plain '/' rfl).2.2.2
  · cases whole with
    | nil => rfl
    | cons c rest => simp [(plain c rfl).1]

/-- What is cut off in front of a rest fits there. -/
theorem fits_cutMarkup (options : ScanOptions) (whole : Text) :
    (cutMarkup options whole).1.Fits options (cutMarkup options whole).2 := by
  rcases markup_cases whole with ⟨inside, rfl⟩ | aside | plain | ⟨name, rest, rfl, tag, other, ends⟩
  · change (cutComment inside).1.Fits options (cutComment inside).2
    cases cut : cutComment inside with
    | mk segment rest =>
      obtain ⟨text, rfl, _, reaches⟩ := cutComment_eq_iff.mp cut
      exact ⟨text, rfl, reaches⟩
  · rw [cutMarkup_of_startsAside options aside]
    cases cut : cutAside whole with
    | mk segment rest =>
      obtain ⟨more, rfl, rfl, reaches⟩ := cutAside_eq_iff.mp cut
      exact ⟨more, rfl, aside, reaches⟩
  · rw [cutMarkup_of_bracket options plain]
    exact plain
  · rw [cutMarkup_of_name options tag ends, other]
    exact fits_cutElement options tag other ends

/-! ## What fits is cut off -/

/-- The `<` of any segment but a run of characters is cut as that segment. -/
theorem cutMarkup_of_fits {options : ScanOptions} {segment : Segment} {rest : Text}
    (fits : segment.Fits options rest) (markup : '<' ∈ segment.text) :
    ∃ more, segment.text = '<' :: more ∧ cutMarkup options (more ++ rest) = (segment, rest) := by
  cases segment with
  | characters run => exact absurd markup fits.2
  | bracket => exact ⟨[], rfl, cutMarkup_of_bracket options fits⟩
  | comment text =>
    obtain ⟨inside, rfl, reaches⟩ := fits
    exact ⟨_, rfl, cutComment_eq_iff.mpr ⟨inside, rfl, rfl, reaches⟩⟩
  | aside text =>
    obtain ⟨more, rfl, starts, reaches⟩ := fits
    refine ⟨more, rfl, ?_⟩
    rw [cutMarkup_of_startsAside options starts]
    exact cutAside_eq_iff.mpr ⟨more, rfl, rfl, reaches⟩
  | unterminated text =>
    obtain ⟨name, area, rfl, opening, other, rfl⟩ := fits
    refine ⟨name ++ area, rfl, ?_⟩
    have absent : '>' ∉ name ++ area := by
      rw [List.mem_append, not_or]
      exact ⟨Text.notMem_of_word opening.word (by decide), opening.plain⟩
    rw [List.append_nil, cutMarkup_of_name options opening.toIsTagName opening.ends, other,
      cutElement_of_notMem options absent]
    rfl
  | unclosed text =>
    obtain ⟨name, area, rfl, opening, other, leaves, unbalanced⟩ := fits
    refine ⟨name ++ area ++ ['>'], rfl, ?_⟩
    rw [opening.cutMarkup_eq options other, endsAtOpening_eq_false_iff.mpr leaves,
      (balance_eq_none_iff opening.toIsTagName).mpr unbalanced]
    rfl
  | tag text =>
    obtain ⟨name, area, rfl, opening, other, ends⟩ := fits
    refine ⟨name ++ area ++ ['>'], rfl, ?_⟩
    rw [opening.cutMarkup_eq options other, if_pos]
    rwa [← Bool.not_eq_false, endsAtOpening_eq_false_iff]
  | element text body closing =>
    obtain ⟨name, area, rfl, opening, other, leaves, first⟩ := fits
    refine ⟨name ++ area ++ ['>'] ++ body ++ closing, rfl, ?_⟩
    have found := (balance_eq_some_iff opening.toIsTagName).mpr
      ⟨closing, rest, rfl, List.append_assoc .., first⟩
    have cut := opening.cutMarkup_element other leaves found first.balances.length_closing
    simpa only [List.append_assoc] using cut

theorem eq_characters_of_fits {options : ScanOptions} {segment : Segment} {rest : Text}
    (fits : segment.Fits options rest) (plain : '<' ∉ segment.text) :
    segment = .characters segment.text := by
  cases segment with
  | characters run => rfl
  | bracket => exact (plain List.mem_cons_self).elim
  | comment text =>
    obtain ⟨inside, rfl, _⟩ := fits
    exact (plain List.mem_cons_self).elim
  | aside text =>
    obtain ⟨more, rfl, _⟩ := fits
    exact (plain List.mem_cons_self).elim
  | unterminated text =>
    obtain ⟨name, area, rfl, _⟩ := fits
    exact (plain List.mem_cons_self).elim
  | unclosed text =>
    obtain ⟨name, area, rfl, _⟩ := fits
    exact (plain List.mem_cons_self).elim
  | tag text =>
    obtain ⟨name, area, rfl, _⟩ := fits
    exact (plain List.mem_cons_self).elim
  | element text body closing =>
    obtain ⟨name, area, rfl, _⟩ := fits
    exact (plain List.mem_cons_self).elim

/-- A text in front of a rest is at most one segment. -/
theorem eq_of_fits {options : ScanOptions} {first second : Segment} {rest : Text}
    (here : first.Fits options rest) (there : second.Fits options rest)
    (same : first.text = second.text) : first = second := by
  by_cases markup : '<' ∈ first.text
  · obtain ⟨more, text, cut⟩ := cutMarkup_of_fits here markup
    obtain ⟨again, textAgain, cutAgain⟩ := cutMarkup_of_fits there (same ▸ markup)
    obtain rfl : more = again := by
      have tails := text.symm.trans (same.trans textAgain)
      exact (List.cons.inj tails).2
    exact congrArg Prod.fst (cut.symm.trans cutAgain)
  · rw [eq_characters_of_fits here markup, eq_characters_of_fits there (same ▸ markup), same]

/-! ## The segments of a document -/

/-- Each segment of a document fits in front of those that follow it. -/
theorem fits_segments {options : ScanOptions} {text : Text} {before after : List Segment}
    {segment : Segment} (whole : segments options text = before ++ segment :: after) :
    segment.text ≠ [] ∧ segment.Fits options (after.flatMap Segment.text) := by
  fun_induction segments options text generalizing before with
  | case1 => simp at whole
  | case2 rest ih =>
    cases before with
    | nil =>
      obtain ⟨rfl, rfl⟩ := List.cons.inj whole
      rw [segments_text]
      refine ⟨?_, fits_cutMarkup options rest⟩
      exact List.length_pos_iff.mp (cutMarkup_text_pos options rest)
    | cons first before => exact ih (List.cons.inj whole).2
  | case3 c rest other ih =>
    cases before with
    | nil =>
      obtain ⟨rfl, rfl⟩ := List.cons.inj whole
      refine ⟨List.cons_ne_nil _ _, List.cons_ne_nil _ _, ?_⟩
      intro present
      rcases List.mem_cons.mp present with rfl | later
      · exact other rfl
      · simpa using List.mem_takeWhile_imp later
    | cons first before => exact ih (List.cons.inj whole).2

/-- What a segment gives besides fragments is the segment itself, if it is an element. -/
theorem whole_slices (segment : Segment) :
    (segment.slices.filter (·.origin != .fragment)).map Slice.text =
      ([segment].filter Segment.isSlice).map Segment.text := by
  cases segment with
  | element opening body closing =>
    simp only [Segment.slices]
    split
    · rfl
    · have pieces : (nested (opening ++ body ++ closing)).filter (·.origin != .fragment) = [] := by
        rw [List.filter_eq_nil_iff]
        intro slice member
        simp [origin_of_mem_nested member]
      rw [List.filter_cons_of_pos (by rfl), pieces]
      rfl
  | _ => rfl

/-- A document without line feeds is the sequence of its segments. None of them is empty, each is
what stands in its place, and nothing else stands there; the slices that are cut out of the
document are the segments that are elements, in order. -/
theorem segments_tile (options : ScanOptions) (html : Text) :
    let input := html.filter (· != '\n')
    let parts := segments options input
    parts.flatMap Segment.text = input ∧
      (∀ before part after, parts = before ++ part :: after →
        part.text ≠ [] ∧ part.Fits options (after.flatMap Segment.text) ∧
          ∀ other : Segment, other.text = part.text →
            other.Fits options (after.flatMap Segment.text) → other = part) ∧
      ((Scanner.ofText options html).run.slices.filter (·.origin != .fragment)).map Slice.text =
        (parts.filter Segment.isSlice).map Segment.text := by
  intro input parts
  refine ⟨segments_text options input, ?_, ?_⟩
  · intro before part after whole
    obtain ⟨nonempty, fits⟩ := fits_segments whole
    exact ⟨nonempty, fits, fun other same there => eq_of_fits there fits same⟩
  · change ((slices options html).filter _).map _ = _
    rw [slices_eq_flatMap]
    change ((parts.flatMap Segment.slices).filter _).map _ = _
    induction parts with
    | nil => rfl
    | cons segment rest ih =>
      rw [List.flatMap_cons, List.filter_append, List.map_append, ih, whole_slices,
        ← List.map_append, ← List.filter_append, List.singleton_append]

end TagQuery.Markup
