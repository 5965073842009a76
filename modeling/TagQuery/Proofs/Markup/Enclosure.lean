import TagQuery.Proofs.Markup.Reading
import TagQuery.Proofs.Markup.Tiling

/-!
# What slices enclose

Every slice is an opening tag by itself, or an opening tag with a body and its closer
(`Capture.Shape`). The body is matched: up to each of its places there have been no more closers
than openers of the name, and at its end there are as many of the one as of the other. That is so
because `balance` stops at the first closer that would leave more closers than openers
(`closers_le_of_balance`), and because a fragment holds no tag besides its own.

Reading an element off a slice therefore never has to close anything. `run_encloses` says this of
every run of a scanner, and that an opening tag which leaves its element open is reported exactly
if a closer balances it, up to the end of the first such closer.
-/

namespace TagQuery.Markup

/-- A text that closes nothing of a name but what it has opened before, and all of it. -/
structure Matched (name text : Text) : Prop where
  surplus : ∀ front, front <+: text → countClosers name front ≤ countOpeners name front
  even : countClosers name text = countOpeners name text

theorem matched_of_notMem {name text : Text} (absent : '<' ∉ text) : Matched name text where
  surplus front within := by
    rw [countClosers_of_notMem fun present => absent (within.subset present)]
    exact Nat.zero_le _
  even := by rw [countClosers_of_notMem absent, countOpeners_of_notMem absent]

/-! ## Bodies -/

theorem startsCloser_of_prefix {name front text : Text} (within : front <+: text)
    (starts : startsCloser name front = true) : startsCloser name text = true := by
  obtain ⟨back, rfl⟩ := within
  obtain ⟨spelling, rest, same, rfl⟩ := startsCloser_iff.mp starts
  exact startsCloser_iff.mpr ⟨spelling, rest ++ back, same, List.append_assoc ..⟩

section Named
variable {name : Text} (tag : IsTagName name)

include tag

/-- Nothing that the search passes over has more closers than openers and open elements. -/
theorem closers_le_of_balance {depth : Nat} {text body after front : Text}
    (found : balance name depth text = some (body, after)) (within : front <+: body) :
    countClosers name front ≤ countOpeners name front + depth := by
  induction text generalizing depth body front with
  | nil => cases found
  | cons c rest ih =>
    rcases balance_cons tag depth c rest with ⟨_, _, stop⟩ | ⟨deeper, step, moved⟩
    · rw [stop] at found
      cases found
      rw [List.prefix_nil.mp within]
      exact Nat.zero_le _
    · rw [step] at found
      obtain ⟨⟨inner, tail⟩, cut, same⟩ := Option.map_eq_some_iff.mp found
      cases same
      rcases List.prefix_cons_iff.mp within with rfl | ⟨front, rfl, inside⟩
      · exact Nat.zero_le _
      · have onward : front <+: rest := inside.trans ⟨after, append_of_balance cut⟩
        have later := ih cut inside
        rw [countClosers, countOpeners]
        by_cases markup : '<' ∈ front
        · obtain ⟨opens, closes⟩ := starts_of_prefix tag (c := c) onward markup
          rw [opens, closes] at moved
          omega
        · rw [countClosers_of_notMem markup]
          have closes : startsCloser name (c :: front) = true → startsCloser name (c :: rest) = true :=
            startsCloser_of_prefix ((List.prefix_cons_inj c).mpr onward)
          have opens : startsCloser name (c :: rest) = true → startsOpener name (c :: rest) = false :=
            startsOpener_of_startsCloser tag
          grind

theorem BalancesFirst.matched {body closing rest : Text}
    (first : BalancesFirst name (body ++ closing ++ rest) body closing) : Matched name body := by
  have found := (balance_eq_some_iff tag).mpr
    ⟨closing, rest, rfl, List.append_assoc .., first⟩
  exact ⟨fun front within => closers_le_of_balance tag found within,
    (counts_of_balance tag found).2⟩

end Named

/-! ## Shapes -/

/-- How a captured slice is put together. -/
inductive Capture.Shape (options : ScanOptions) (capture : Capture) : Prop
  /-- An opening tag by itself. -/
  | tag {name area : Text} (opening : IsOpening name area) (other : isLineBreak name = false)
      (whole : capture.slice.text = openingTag name area) (bare : capture.body? = none)
      (unrefined : capture.slice.origin ≠ .refined)
  /-- An opening tag that leaves its element open, a body and a closer. -/
  | element {name area body spelling : Text} (opening : IsOpening name area)
      (other : isLineBreak name = false) (leaves : LeavesOpen options name area)
      (matched : Matched name body) (same : Text.sameName name spelling = true)
      (whole : capture.slice.text = openingTag name area ++ body ++ closer spelling)

theorem Matched.balances {name body spelling : Text} (matched : Matched name body)
    (tag : IsTagName name) (same : Text.sameName name spelling = true) :
    Balances name body (closer spelling) :=
  (balances_iff tag).mpr ⟨⟨spelling, same, rfl⟩, matched.even⟩

/-- A piece of a text starts with the only `<` in it. -/
theorem exists_of_mem_pieces {text piece : Text} (member : piece ∈ pieces text) :
    ∃ tail, piece = '<' :: tail ∧ '<' ∉ tail ∧ piece <:+: text := by
  fun_induction pieces text with
  | case1 => cases member
  | case2 rest ih =>
    rcases List.mem_cons.mp member with rfl | later
    · have absent : '<' ∉ rest.takeWhile (· != '<') := fun present => by
        simpa using List.mem_takeWhile_imp present
      refine ⟨_, rfl, absent, List.IsPrefix.isInfix ?_⟩
      exact (List.prefix_cons_inj '<').mpr (List.takeWhile_prefix _)
    · obtain ⟨tail, whole, absent, inside⟩ := ih later
      exact ⟨tail, whole, absent,
        (inside.trans (List.dropWhile_suffix _).isInfix).trans (List.suffix_cons '<' rest).isInfix⟩
  | case3 c rest _ ih =>
    obtain ⟨tail, whole, absent, inside⟩ := ih member
    exact ⟨tail, whole, absent, inside.trans (List.suffix_cons c rest).isInfix⟩

/-- A text whose only `<` is its first character starts with an opening tag if it names one and has
a `>`. -/
theorem exists_opening {tail : Text} (named : tail.takeWhile Text.isWord ≠ [])
    (closed : '>' ∈ tail) :
    ∃ name area run, IsOpening name area ∧ '<' :: tail = openingTag name area ++ run ∧
      tagName ('<' :: tail) = name := by
  obtain ⟨name, rest, rfl, word, ends⟩ := Text.exists_run Text.isWord tail
  rw [Text.takeWhile_run word ends] at named
  have later : '>' ∈ rest := (List.mem_append.mp closed).resolve_left
    (Text.notMem_of_word word (by decide))
  obtain ⟨area, run, rfl, plain⟩ := List.eq_append_cons_of_mem later
  have opening : IsOpening name area := by
    refine ⟨⟨named, word⟩, ?_, plain⟩
    cases area with
    | nil => simp
    | cons c area => exact ends
  have whole : '<' :: (name ++ (area ++ '>' :: run)) = openingTag name area ++ run := by
    simp [openingTag]
  exact ⟨name, area, run, opening, whole, by rw [whole, opening.tagName_openingTag]⟩

theorem leavesOpen_of_hasBody (options : ScanOptions) {name area : Text}
    (stays : closesItself area = false) (body : (Category.ofName name).hasBody = true) :
    LeavesOpen options name area := by
  refine ⟨fun closes => ?_, ?_⟩
  · rw [closesItself_iff.mpr closes] at stays
    cases stays
  · cases category : Category.ofName name with
    | void | wrapper =>
      rw [category] at body
      cases body
    | nestable | generic => trivial

namespace IsOpening
variable {name area : Text} (opening : IsOpening name area)

include opening

/-- One closer is added to an opening tag that no other tag follows. -/
theorem closeUnmatched_openingTag {run : Text} (unopened : '<' ∉ area) (plain : '<' ∉ run) :
    closeUnmatched name (openingTag name area ++ run) =
      openingTag name area ++ run ++ closer name := by
  have absent : '<' ∉ name ++ area ++ ['>'] ++ run := by
    rw [List.mem_append, not_or]
    exact ⟨opening.notMem_tail unopened, plain⟩
  have opens := opening.startsOpener_openingTag opening.toIsTagName run
  have closes := opening.startsCloser_openingTag name run
  rw [Text.sameName_refl, openingTag, List.cons_append] at opens
  rw [openingTag, List.cons_append] at closes
  have openers : countOpeners name (openingTag name area ++ run) = 1 := by
    rw [openingTag, List.cons_append, countOpeners, opens, countOpeners_of_notMem absent]
    rfl
  have closers : countClosers name (openingTag name area ++ run) = 0 := by
    rw [openingTag, List.cons_append, countClosers, closes, countClosers_of_notMem absent]
    rfl
  rw [closeUnmatched, openers, closers]
  simp

/-- The fragment of a piece that starts with an opening tag. -/
theorem fragment?_eq (other : isLineBreak name = false) (run : Text) :
    fragment? (openingTag name area ++ run) =
      some ⟨if closesItself area || !(Category.ofName name).hasBody then openingTag name area
        else closeUnmatched name (openingTag name area ++ run), name, .fragment⟩ := by
  have named : name.isEmpty = false := by simpa using opening.nonempty
  have inside : ((openingTag name area).drop (name.length + 1)).dropLast = area := area_eq
  simp only [fragment?, opening.tagName_openingTag, opening.splitAfter?_openingTag, named, other,
    Bool.or_self, Bool.false_eq_true, ↓reduceIte, inside]

end IsOpening

/-- A fragment is made of a piece that starts with an opening tag, and not of a line break. -/
theorem exists_opening_of_fragment? {tail : Text} {slice : Slice}
    (made : fragment? ('<' :: tail) = some slice) :
    ∃ name area run, IsOpening name area ∧ isLineBreak name = false ∧
      '<' :: tail = openingTag name area ++ run := by
  have named : tail.takeWhile Text.isWord ≠ [] := fun unnamed => by
    simp [fragment?, tagName, unnamed] at made
  have closed : '>' ∈ tail := by
    by_contra absent
    have uncut : Text.splitAfter? '>' ('<' :: tail) = none :=
      Text.splitAfter?_eq_none_iff.mpr (by simpa using absent)
    simp [fragment?, uncut] at made
  obtain ⟨name, area, run, opening, whole, first⟩ := exists_opening named closed
  refine ⟨name, area, run, opening, ?_, whole⟩
  by_contra lineBreak
  simp [fragment?, first, lineBreak] at made

/-- Every fragment is an opening tag, or one with plain characters and a closer after it. -/
theorem exists_parts_of_fragment? {tail : Text} {slice : Slice} (plain : '<' ∉ tail)
    (made : fragment? ('<' :: tail) = some slice) :
    ∃ name area run, IsOpening name area ∧ isLineBreak name = false ∧ '<' ∉ area ∧ '<' ∉ run ∧
      slice = ⟨if closesItself area || !(Category.ofName name).hasBody then openingTag name area
        else openingTag name area ++ run ++ closer name, name, .fragment⟩ := by
  obtain ⟨name, area, run, opening, other, whole⟩ := exists_opening_of_fragment? made
  have parts : tail = name ++ area ++ ['>'] ++ run := (List.cons.inj whole).2
  simp only [parts, List.mem_append, not_or] at plain
  obtain ⟨⟨⟨_, unopened⟩, _⟩, noneAfter⟩ := plain
  rw [whole, opening.fragment?_eq other, opening.closeUnmatched_openingTag unopened noneAfter] at made
  exact ⟨name, area, run, opening, other, unopened, noneAfter, (Option.some.inj made).symm⟩

theorem shape_of_fragment? (options : ScanOptions) {tail : Text} {slice : Slice}
    (plain : '<' ∉ tail) (made : fragment? ('<' :: tail) = some slice) :
    Capture.Shape options ⟨slice, none⟩ := by
  obtain ⟨name, area, run, opening, other, _, noneAfter, rfl⟩ := exists_parts_of_fragment? plain made
  cases alone : closesItself area || !(Category.ofName name).hasBody with
  | true => exact .tag opening other rfl rfl (by rintro ⟨⟩)
  | false =>
    obtain ⟨stays, body⟩ := Bool.or_eq_false_iff.mp alone
    exact .element opening other (leavesOpen_of_hasBody options stays (by simpa using body))
      (matched_of_notMem noneAfter) (Text.sameName_refl name) rfl

theorem exists_of_mem_nested {text : Text} {slice : Slice} (member : slice ∈ nested text) :
    ∃ tail, '<' ∉ tail ∧ '<' :: tail <:+: text ∧ fragment? ('<' :: tail) = some slice := by
  unfold nested fragments at member
  split at member
  · split at member
    · cases member
    · split at member
      · cases member
      · obtain ⟨piece, inside, made⟩ := List.mem_filterMap.mp member
        obtain ⟨tail, rfl, plain, within⟩ := exists_of_mem_pieces inside
        exact ⟨tail, plain, within.trans (List.drop_suffix 1 text).isInfix, made⟩
  · cases member

/-- What is captured of a segment that fits has one of the two shapes. -/
theorem shape_captures {options : ScanOptions} {segment : Segment} {rest : Text} {start : Nat}
    (fits : segment.Fits options rest) {capture : Capture}
    (member : capture ∈ segment.captures start) : capture.Shape options := by
  cases segment with
  | tag opening =>
    obtain ⟨name, area, rfl, opening, other, _⟩ := fits
    obtain rfl := List.mem_singleton.mp member
    exact .tag opening other rfl rfl (by rintro ⟨⟩)
  | element opening body closing =>
    obtain ⟨name, area, rfl, opening, other, leaves, first⟩ := fits
    obtain ⟨spelling, same, rfl⟩ := first.balances.closes
    have matched := first.matched opening.toIsTagName
    simp only [Segment.captures] at member
    split at member
    · obtain rfl := List.mem_singleton.mp member
      exact .element opening other leaves matched same rfl
    · rcases List.mem_cons.mp member with rfl | piece
      · exact .element opening other leaves matched same rfl
      · obtain ⟨slice, inside, rfl⟩ := List.mem_map.mp piece
        obtain ⟨tail, plain, _, made⟩ := exists_of_mem_nested inside
        exact shape_of_fragment? options plain made
  | _ => cases member

/-! ## Runs -/

theorem captures_append (start : Nat) (first second : List Segment) :
    captures start (first ++ second) =
      captures start first ++ captures (start + (first.flatMap Segment.text).length) second := by
  induction first generalizing start with
  | nil => rfl
  | cons segment rest ih =>
    rw [List.cons_append, captures, captures, ih, List.flatMap_cons, List.length_append,
      Nat.add_assoc, List.append_assoc]

/-- What is captured of a text has one of the two shapes. -/
theorem shape_captures_segments {options : ScanOptions} {text : Text} {start : Nat}
    {capture : Capture} (member : capture ∈ captures start (segments options text)) :
    capture.Shape options := by
  obtain ⟨_, _, _, whole, here⟩ := exists_segment_of_mem_captures member
  exact shape_captures (fits_segments whole).2 here

/-- The segment that starts with an opening tag is what is cut there. -/
theorem cutMarkup_of_segments {options : ScanOptions} {text name area rest : Text}
    {before after : List Segment} {part : Segment}
    (whole : segments options text = before ++ part :: after)
    (here : part.text ++ after.flatMap Segment.text = openingTag name area ++ rest) :
    cutMarkup options (name ++ area ++ ['>'] ++ rest) = (part, after.flatMap Segment.text) := by
  obtain ⟨nonempty, fits⟩ := fits_segments whole
  obtain ⟨c, more, split⟩ := List.exists_cons_of_ne_nil nonempty
  rw [split] at here
  obtain ⟨rfl, tails⟩ := List.cons.inj here
  change more ++ after.flatMap Segment.text = name ++ area ++ ['>'] ++ rest at tails
  obtain ⟨again, same, cut⟩ := cutMarkup_of_fits fits (by rw [split]; exact List.mem_cons_self)
  obtain rfl : more = again := (List.cons.inj (split.symm.trans same)).2
  rwa [tails] at cut

/-- Of the slices of a closed element only the element itself is not a fragment. -/
theorem exists_capture_element {start : Nat} {opening body closing text : Text} :
    (∃ capture ∈ (Segment.element opening body closing).captures start,
        capture.slice.origin ≠ .fragment ∧ capture.slice.text = text) ↔
      text = opening ++ body ++ closing := by
  simp only [Segment.captures]
  split
  · constructor
    · rintro ⟨capture, member, _, rfl⟩
      rw [List.mem_singleton.mp member]
      rfl
    · rintro rfl
      exact ⟨_, List.mem_singleton.mpr rfl, by rintro ⟨⟩, rfl⟩
  · constructor
    · rintro ⟨capture, member, whole, rfl⟩
      rcases List.mem_cons.mp member with rfl | piece
      · rfl
      · obtain ⟨slice, inside, rfl⟩ := List.mem_map.mp piece
        exact (whole (origin_of_mem_nested inside)).elim
    · rintro rfl
      exact ⟨_, List.mem_cons_self, by rintro ⟨⟩, rfl⟩

/-- No two closers are the first that balances. -/
theorem BalancesFirst.unique {name text body closing other last : Text} (tag : IsTagName name)
    (first : BalancesFirst name text body closing) (again : BalancesFirst name text other last) :
    other ++ last = body ++ closing := by
  obtain ⟨rest, whole⟩ := first.within
  obtain ⟨tail, split⟩ := again.within
  have found := (balance_eq_some_iff tag).mpr
    ⟨closing, rest, rfl, (whole.symm.trans (List.append_assoc ..)), first⟩
  have foundAgain := (balance_eq_some_iff tag).mpr
    ⟨last, tail, rfl, (split.symm.trans (List.append_assoc ..)), again⟩
  rw [found] at foundAgain
  obtain ⟨rfl, tails⟩ := Prod.mk.inj (Option.some.inj foundAgain)
  have size := first.balances.length_closing.trans again.balances.length_closing.symm
  rw [(List.append_inj tails size).1]

/-- Where an element is left open, its slice reaches to the first closer that balances it; there is
none if no closer does. -/
theorem captures_opening {options : ScanOptions} {text name area rest : Text}
    {before after : List Segment} {part : Segment}
    (whole : segments options text = before ++ part :: after)
    (here : part.text ++ after.flatMap Segment.text = openingTag name area ++ rest)
    (opening : IsOpening name area) (other : isLineBreak name = false)
    (leaves : LeavesOpen options name area) (start : Nat) :
    (∀ through, (∃ capture ∈ part.captures start, capture.slice.origin ≠ .fragment ∧
        capture.slice.text = openingTag name area ++ through) ↔
      ∃ body closing, through = body ++ closing ∧ BalancesFirst name rest body closing) ∧
    ((¬ ∃ body closing, BalancesFirst name rest body closing) → part.captures start = []) := by
  have tag := opening.toIsTagName
  have cut := cutMarkup_of_segments whole here
  cases found : balance name 0 rest with
  | none =>
    have unbalanced := (balance_eq_none_iff tag).mp found
    have absent : ¬ ∃ body closing, BalancesFirst name rest body closing :=
      fun ⟨body, closing, first⟩ => unbalanced body closing first.within first.balances
    rw [opening.cutMarkup_eq options other, endsAtOpening_eq_false_iff.mpr leaves, found] at cut
    obtain ⟨rfl, _⟩ := Prod.mk.inj cut
    exact ⟨fun through => ⟨fun ⟨_, member, _⟩ => absurd member List.not_mem_nil,
      fun ⟨body, closing, _, first⟩ => absurd ⟨body, closing, first⟩ absent⟩, fun _ => rfl⟩
  | some result =>
    obtain ⟨body, tail⟩ := result
    obtain ⟨closing, last, rfl, -, first⟩ := (balance_eq_some_iff tag).mp found
    rw [opening.cutMarkup_element other leaves found first.balances.length_closing] at cut
    obtain ⟨rfl, -⟩ := Prod.mk.inj cut
    refine ⟨fun through => ?_, fun absent => absurd ⟨body, closing, first⟩ absent⟩
    rw [exists_capture_element, List.append_assoc, List.append_cancel_left_eq]
    constructor
    · rintro rfl
      exact ⟨body, closing, rfl, first⟩
    · rintro ⟨again, closer, rfl, same⟩
      exact first.unique tag same

/-- What is read off a captured slice: an element whose inner text is matched and stands in the
slice as it is. -/
structure Capture.Enclosed (capture : Capture) (element : Element) : Prop where
  read : Element.ofSlice? capture.slice.text = some element
  matched : Matched element.name element.innerText
  /-- No closer is added to what stands before the last `</`. -/
  asWritten : ∃ area inside, IsOpening element.name area ∧
    capture.slice.text = openingTag element.name area ++ inside ∧
    element.innerText = (Text.beforeLast? ['<', '/'] inside).getD []
  closed : capture.body?.isSome = true ∨ capture.slice.origin = .refined →
    ∃ area spelling, IsOpening element.name area ∧ Text.sameName element.name spelling = true ∧
      capture.slice.text = openingTag element.name area ++ element.innerText ++ closer spelling

theorem Capture.Shape.exists_enclosed {options : ScanOptions} {capture : Capture}
    (shape : capture.Shape options) : ∃ element, capture.Enclosed element := by
  cases shape with
  | @tag name area opening other whole bare unrefined =>
    refine ⟨⟨name, attributesOf name area, []⟩, ?_, matched_of_notMem nofun,
      ⟨area, [], opening, by rw [whole, List.append_nil], rfl⟩, ?_⟩
    · rw [whole, opening.ofSlice?_tag]
    · rw [bare]
      rintro (body | refined)
      · cases body
      · exact (unrefined refined).elim
  | @element name area body spelling opening other leaves matched same whole =>
    have balances := matched.balances opening.toIsTagName same
    refine ⟨⟨name, attributesOf name area, body⟩, ?_, matched,
      ⟨area, body ++ closer spelling, opening, by rw [whole, List.append_assoc], ?_⟩,
      fun _ => ⟨area, spelling, opening, same, whole⟩⟩
    · rw [whole, opening.ofSlice?_of_balances balances]
    · rw [beforeLast?_of_balances opening.toIsTagName balances, Option.getD_some]

/-- A run reports an opening tag that leaves its element open exactly if a closer in the rest of the
window balances it, up to the end of the first such closer. The element of every slice that a run
reports has a matched inner text, to which no closer is added, and a slice with a body or with
fragments is an opening tag, that inner text and a closer. -/
theorem run_encloses (scanner : Scanner) :
    (∀ before part after, segments scanner.options scanner.window = before ++ part :: after →
      let start := scanner.position + (before.flatMap Segment.text).length
      scanner.run.captured = scanner.captured ++ (captures scanner.position before ++
        (part.captures start ++ captures (start + part.text.length) after)) ∧
      ∀ name area rest, part.text ++ after.flatMap Segment.text = openingTag name area ++ rest →
        IsOpening name area → isLineBreak name = false → LeavesOpen scanner.options name area →
          (∀ through, (∃ capture ∈ part.captures start, capture.slice.origin ≠ .fragment ∧
              capture.slice.text = openingTag name area ++ through) ↔
            ∃ body closing, through = body ++ closing ∧ BalancesFirst name rest body closing) ∧
          ((¬ ∃ body closing, BalancesFirst name rest body closing) → part.captures start = [])) ∧
    (scanner.captured = [] → ∀ capture ∈ scanner.run.captured,
      ∃ element, capture.Enclosed element) := by
  refine ⟨fun before part after whole => ⟨?_, ?_⟩, fun fresh capture member => ?_⟩
  · rw [Scanner.run, whole, captures_append, captures]
  · intro name area rest here opening other leaves
    exact captures_opening whole here opening other leaves _
  · rw [Scanner.run, fresh, List.nil_append] at member
    exact (shape_captures_segments member).exists_enclosed

end TagQuery.Markup
