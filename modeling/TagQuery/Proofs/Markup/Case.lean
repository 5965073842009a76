import TagQuery.Proofs.Markup.AttributeReading
import TagQuery.Proofs.Markup.Descent
import TagQuery.Proofs.Markup.Tiling
import TagQuery.Proofs.Text.Case

/-!
# Markup in small letters

Lower-casing a document changes nothing about it but the case of its letters: it is cut at the same
places into segments of the same kinds, its slices are refined in the same way, and the elements
that are extracted from it are the lower-cased ones (`extract_lower`).

Every function along the way gets one lemma, which carries `Text.lower` through it. A tag name
enters only by comparisons that are blind to case, and all other places where a text is cut are
marked by characters that are not letters.
-/

namespace TagQuery

open Text

/-! ## Lower-cased parts -/

/-- A slice in small letters. -/
def Slice.lower (slice : Slice) : Slice :=
  ⟨Text.lower slice.text, Text.lower slice.name, slice.origin⟩

/-- An attribute in small letters. -/
def Attribute.lower (entry : Attribute) : Attribute :=
  ⟨Text.lower entry.name, Text.lower entry.value⟩

/-- Attributes in small letters, in their order. -/
def Attributes.lower (attributes : Attributes) : Attributes :=
  ⟨attributes.toList.map Attribute.lower⟩

/-- An element in small letters. -/
def Element.lower (element : Element) : Element :=
  ⟨Text.lower element.name, element.attributes.lower, Text.lower element.innerText⟩

/-- A segment in small letters. -/
def Markup.Segment.lower : Segment → Segment
  | .characters run => .characters (Text.lower run)
  | .bracket => .bracket
  | .comment text => .comment (Text.lower text)
  | .aside text => .aside (Text.lower text)
  | .unterminated text => .unterminated (Text.lower text)
  | .unclosed opening => .unclosed (Text.lower opening)
  | .tag opening => .tag (Text.lower opening)
  | .element opening body closing =>
    .element (Text.lower opening) (Text.lower body) (Text.lower closing)

/-! ## Tags -/

theorem Category.ofName_lower (name : Text) :
    Category.ofName (Text.lower name) = Category.ofName name := by
  simp only [Category.ofName, sameName_lower_right]

theorem Slice.category_lower (slice : Slice) : slice.lower.category = slice.category :=
  Category.ofName_lower slice.name

namespace Markup

theorem isLineBreak_lower (name : Text) : isLineBreak (lower name) = isLineBreak name :=
  sameName_lower_right ..

theorem isRawText_lower (name : Text) : isRawText (lower name) = isRawText name := by
  simp only [isRawText, sameName_lower_right]

theorem tagName_lower (text : Text) : tagName (lower text) = lower (tagName text) := by
  rw [tagName, tagName, drop_lower, takeWhile_lower caseBlind_isWord]

theorem closer_lower (name : Text) : closer (lower name) = lower (closer name) := by
  simp only [closer, lower_cons, lower_append, lower_nil]
  rfl

theorem closesItself_lower (area : Text) : closesItself (lower area) = closesItself area := by
  rw [closesItself, closesItself, reverse_lower]
  cases area.reverse with
  | nil => rfl
  | cons c rest =>
    by_cases slash : c = '/'
    · subst slash
      cases rest with
      | nil => rfl
      | cons d rest => exact caseBlind_isSpace d
    · have other : c.toLower ≠ '/' := toLower_ne_mark (by decide) slash
      simp [slash, other]

theorem startsOpener_lower (name text : Text) :
    startsOpener (lower name) (lower text) = startsOpener name text := by
  cases text with
  | nil => rfl
  | cons c rest =>
    by_cases markup : c = '<'
    · subst markup
      have found := stripIgnoringCase?_lower name rest
      rw [lower_cons, toLower_of_mark (by decide), startsOpener, startsOpener, found]
      cases stripIgnoringCase? name rest with
      | none => rfl
      | some after =>
        cases after with
        | nil => rfl
        | cons d after => exact congrArg (!·) (isWord_toLower d)
    · have other : c.toLower ≠ '<' := toLower_ne_mark (by decide) markup
      rw [lower_cons, startsOpener_of_ne markup, startsOpener_of_ne other]

theorem startsCloser_lower (name text : Text) :
    startsCloser (lower name) (lower text) = startsCloser name text := by
  cases text with
  | nil => rfl
  | cons c rest =>
    by_cases markup : c = '<'
    · subst markup
      cases rest with
      | nil => rfl
      | cons d rest =>
        by_cases slash : d = '/'
        · subst slash
          have found := stripIgnoringCase?_lower name rest
          rw [lower_cons, lower_cons, toLower_of_mark (by decide), toLower_of_mark (by decide),
            startsCloser, startsCloser, found]
          cases stripIgnoringCase? name rest with
          | none => rfl
          | some after =>
            cases after with
            | nil => rfl
            | cons e after =>
              have ends : e.toLower = '>' ↔ e = '>' := toLower_eq_mark_iff (by decide)
              by_cases last : e = '>'
              · subst last
                rfl
              · simp [last, ends]
        · have other : d.toLower ≠ '/' := toLower_ne_mark (by decide) slash
          simp [startsCloser, slash, other]
    · have other : c.toLower ≠ '<' := toLower_ne_mark (by decide) markup
      rw [lower_cons, startsCloser_of_ne markup, startsCloser_of_ne other]

theorem countOpeners_lower (name text : Text) :
    countOpeners (lower name) (lower text) = countOpeners name text := by
  induction text with
  | nil => rfl
  | cons c rest ih =>
    have starts := startsOpener_lower name (c :: rest)
    rw [lower_cons] at starts ⊢
    rw [countOpeners, countOpeners, starts, ih]

theorem countClosers_lower (name text : Text) :
    countClosers (lower name) (lower text) = countClosers name text := by
  induction text with
  | nil => rfl
  | cons c rest ih =>
    have starts := startsCloser_lower name (c :: rest)
    rw [lower_cons] at starts ⊢
    rw [countClosers, countClosers, starts, ih]

theorem closeUnmatched_lower (name text : Text) :
    closeUnmatched (lower name) (lower text) = lower (closeUnmatched name text) := by
  simp only [closeUnmatched, countOpeners_lower, countClosers_lower, closer_lower, lower_append]
  rw [lower_flatten, List.map_replicate]

theorem balance_lower (name : Text) (depth : Nat) (text : Text) :
    balance (lower name) depth (lower text) =
      (balance name depth text).map (Prod.map lower lower) := by
  induction text generalizing depth with
  | nil => rfl
  | cons c rest ih =>
    have closes := startsCloser_lower name (c :: rest)
    have opens := startsOpener_lower name (c :: rest)
    rw [lower_cons] at closes opens ⊢
    unfold balance
    rw [closes, opens]
    split
    · cases depth with
      | zero => rfl
      | succ depth =>
        simp only [ih, Option.map_map]
        rfl
    · simp only [ih, Option.map_map]
      rfl

/-! ## Segments -/

theorem cutAside_lower (rest : Text) :
    cutAside (lower rest) = Prod.map Segment.lower lower (cutAside rest) := by
  rw [cutAside, cutAside, splitAfter?_lower (by decide)]
  cases splitAfter? '>' rest with
  | none => rfl
  | some cut => rfl

theorem cutComment_lower (inside : Text) :
    cutComment (lower inside) = Prod.map Segment.lower lower (cutComment inside) := by
  have marks : ∀ c ∈ ['-', '-', '>'], c.isAlpha = false := by simp
  rw [cutComment, cutComment, splitAfterPattern?_lower marks]
  cases splitAfterPattern? ['-', '-', '>'] inside with
  | none => rfl
  | some cut => rfl

theorem endsAtOpening_lower (options : ScanOptions) (name area : Text) :
    endsAtOpening options (lower name) (lower area) = endsAtOpening options name area := by
  rw [endsAtOpening, endsAtOpening, closesItself_lower, Category.ofName_lower]

theorem cutElement_lower (options : ScanOptions) (name rest : Text) :
    cutElement options (lower name) (lower rest) =
      Prod.map Segment.lower lower (cutElement options name rest) := by
  rw [cutElement, cutElement, splitAfter?_lower (by decide)]
  cases splitAfter? '>' rest with
  | none => rfl
  | some cut =>
    obtain ⟨front, after⟩ := cut
    simp only [Option.map_some, Prod.map_apply, length_lower, drop_lower, dropLast_lower,
      endsAtOpening_lower, balance_lower]
    split
    · rfl
    · cases balance name 0 after with
      | none => rfl
      | some found =>
        obtain ⟨body, tail⟩ := found
        simp only [Option.map_some, Prod.map_apply, take_lower, drop_lower]
        rfl

theorem IsTagName.lower {name : Text} (tag : IsTagName name) : IsTagName (Text.lower name) where
  nonempty := by
    rw [← List.isEmpty_eq_false_iff, isEmpty_lower]
    simpa using tag.nonempty
  word c member := by
    obtain ⟨d, inside, rfl⟩ := List.mem_map.mp member
    rw [isWord_toLower, tag.word d inside]

theorem StartsAside.lower {text : Text} (starts : StartsAside text) :
    StartsAside (Text.lower text) := by
  rcases starts with ⟨tail, rfl, plain⟩ | ⟨tail, rfl⟩ | ⟨tail, rfl⟩ | ⟨name, tail, rfl, br, ends⟩
  · refine .inl ⟨Text.lower tail, rfl, ?_⟩
    have marks : ∀ c ∈ ['-', '-'], c.isAlpha = false := by simp
    rw [← strip?_eq_none_iff] at plain ⊢
    rw [strip?_lower marks, plain, Option.map_none]
  · exact .inr (.inl ⟨Text.lower tail, rfl⟩)
  · exact .inr (.inr (.inl ⟨Text.lower tail, rfl⟩))
  · refine .inr (.inr (.inr ⟨Text.lower name, Text.lower tail, lower_append .., ?_, ?_⟩))
    · rw [isLineBreak_lower, br]
    · exact stop_lower caseBlind_isWord ends

theorem cutMarkup_lower (options : ScanOptions) (whole : Text) :
    cutMarkup options (lower whole) = Prod.map Segment.lower lower (cutMarkup options whole) := by
  rcases markup_cases whole with ⟨inside, rfl⟩ | aside | plain | ⟨name, rest, rfl, tag, other, ends⟩
  · exact cutComment_lower inside
  · rw [cutMarkup_of_startsAside options aside, cutMarkup_of_startsAside options aside.lower,
      cutAside_lower]
  · have plainLower : ∀ c ∈ (lower whole).head?,
        isWord c = false ∧ c ≠ '!' ∧ c ≠ '?' ∧ c ≠ '/' := by
      cases whole with
      | nil => exact nofun
      | cons d rest =>
        obtain ⟨unnamed, exclaims, asks, slash⟩ := plain d rfl
        intro c first
        obtain rfl := Option.some.inj first
        refine ⟨by rw [isWord_toLower, unnamed], ?_, ?_, ?_⟩
        · exact toLower_ne_mark (by decide) exclaims
        · exact toLower_ne_mark (by decide) asks
        · exact toLower_ne_mark (by decide) slash
    rw [cutMarkup_of_bracket options plain, cutMarkup_of_bracket options plainLower]
    rfl
  · have endsLower := stop_lower caseBlind_isWord ends
    have cut := cutElement_lower options name (name ++ rest)
    rw [lower_append] at cut ⊢
    rw [cutMarkup_of_name options tag ends, cutMarkup_of_name options tag.lower endsLower,
      isLineBreak_lower, other, if_neg Bool.false_ne_true, if_neg Bool.false_ne_true, cut]

theorem segments_lower (options : ScanOptions) (text : Text) :
    segments options (lower text) = (segments options text).map Segment.lower := by
  fun_induction segments options text with
  | case1 => rw [lower_nil, segments, List.map_nil]
  | case2 rest ih =>
    have same : ('<' : Char).toLower = '<' := rfl
    rw [lower_cons, segments, if_pos same, cutMarkup_lower]
    exact congrArg (_ :: ·) ih
  | case3 c rest other ih =>
    have blind : CaseBlind (· != '<') := caseBlind_bne (by decide)
    have markup : c.toLower ≠ '<' := toLower_ne_mark (by decide) other
    rw [lower_cons, segments, if_neg markup, takeWhile_lower blind, dropWhile_lower blind, ih]
    rfl

/-! ## Slices -/

theorem slice_ofText_lower (text : Text) (origin : Origin) :
    Slice.ofText (lower text) origin = (Slice.ofText text origin).lower := by
  rw [Slice.ofText, tagName_lower]
  rfl

theorem pieces_lower (text : Text) : pieces (lower text) = (pieces text).map lower := by
  have blind : CaseBlind (· != '<') := caseBlind_bne (by decide)
  fun_induction pieces text with
  | case1 => rw [lower_nil, pieces, List.map_nil]
  | case2 rest ih =>
    have same : ('<' : Char).toLower = '<' := rfl
    rw [lower_cons, pieces, if_pos same, takeWhile_lower blind, dropWhile_lower blind, ih]
    rfl
  | case3 c rest other ih =>
    have markup : c.toLower ≠ '<' := toLower_ne_mark (by decide) other
    rw [lower_cons, pieces, if_neg markup, ih]

theorem fragment?_lower (piece : Text) :
    fragment? (lower piece) = (fragment? piece).map Slice.lower := by
  simp only [fragment?, tagName_lower, isEmpty_lower, isLineBreak_lower, length_lower]
  split
  · rfl
  · rw [splitAfter?_lower (by decide)]
    cases Text.splitAfter? '>' piece with
    | none => rfl
    | some cut =>
      obtain ⟨opening, rest⟩ := cut
      simp only [Option.map_some, Prod.map_apply, drop_lower, dropLast_lower, closesItself_lower,
        Category.ofName_lower, closeUnmatched_lower]
      split <;> rfl

theorem fragments_lower (text : Text) :
    ((pieces (lower text)).filterMap fragment?) =
      ((pieces text).filterMap fragment?).map Slice.lower := by
  rw [pieces_lower, List.filterMap_map, List.map_filterMap]
  exact List.filterMap_congr fun piece _ => fragment?_lower piece

theorem nested_lower (text : Text) : nested (lower text) = (nested text).map Slice.lower := by
  simp only [nested, fragments, tagName_lower, Category.ofName_lower]
  split
  · rw [splitAfter?_lower (by decide)]
    cases Text.splitAfter? '>' text with
    | none => rfl
    | some cut =>
      obtain ⟨opening, inside⟩ := cut
      simp only [Option.map_some, Prod.map_apply, countOpeners_lower, drop_lower]
      split
      · rfl
      · exact fragments_lower (text.drop 1)
  · rfl

theorem segment_slices_lower (segment : Segment) :
    segment.lower.slices = segment.slices.map Slice.lower := by
  cases segment with
  | tag opening => exact congrArg ([·]) (slice_ofText_lower opening .scanned)
  | element opening body closing =>
    simp only [Segment.lower, Segment.slices, ← lower_append, nested_lower, slice_ofText_lower,
      List.isEmpty_map]
    split <;> rfl
  | _ => rfl

/-- The slices of a document in small letters are its slices in small letters. -/
theorem slices_lower (options : ScanOptions) (html : Text) :
    slices options (lower html) = (slices options html).map Slice.lower := by
  have blind : CaseBlind (· != '\n') := caseBlind_bne (by decide)
  rw [slices_eq_flatMap, slices_eq_flatMap, filter_lower blind, segments_lower, List.flatMap_map,
    List.map_flatMap]
  exact congrArg (List.flatMap · _) (funext segment_slices_lower)

end Markup

/-! ## Attributes -/

namespace Attributes

theorem caseBlind_isNameChar : CaseBlind isNameChar := by
  apply caseBlind_of_letters (b := true)
  intro c alpha
  simp [isNameChar, isWord, Char.isAlphanum, alpha]

theorem getLast?_lower (text : Text) :
    ((Text.lower text).getLast? == some '/') = (text.getLast? == some '/') := by
  rw [Text.lower, List.getLast?_map]
  cases text.getLast? with
  | none => rfl
  | some c =>
    have same : c.toLower = '/' ↔ c = '/' := toLower_eq_mark_iff (by decide)
    rw [Bool.eq_iff_iff]
    simp [same]

theorem readValue_lower (void : Bool) (text : Text) :
    readValue void (Text.lower text) = Prod.map Text.lower Text.lower (readValue void text) := by
  cases text with
  | nil => rfl
  | cons c rest =>
    have marks : c.toLower = '"' ∨ c.toLower = '\'' ↔ c = '"' ∨ c = '\'' :=
      or_congr (toLower_eq_mark_iff (by decide)) (toLower_eq_mark_iff (by decide))
    rw [lower_cons, readValue, readValue]
    by_cases mark : c = '"' ∨ c = '\''
    · have plain : c.isAlpha = false := by rcases mark with rfl | rfl <;> decide
      have blind := caseBlind_bne plain
      rw [if_pos (marks.mpr mark), if_pos mark, toLower_of_mark plain, takeWhile_lower blind,
        dropWhile_lower blind, drop_lower]
      rfl
    · have blind := caseBlind_isSpace.not
      rw [if_neg (mt marks.mp mark), if_neg mark, ← lower_cons]
      dsimp only
      rw [takeWhile_lower blind, dropWhile_lower blind, isEmpty_lower, getLast?_lower]
      split
      · rw [dropLast_lower]
        rfl
      · rfl

theorem readAssignment_lower (void : Bool) (text : Text) :
    readAssignment void (Text.lower text) =
      Prod.map Text.lower Text.lower (readAssignment void text) := by
  rcases equals_or_other text with ⟨rest, found⟩ | other
  · have foundLower : Text.skipSpace (Text.lower text) = '=' :: Text.lower rest := by
      rw [skipSpace_lower, found]
      rfl
    rw [readAssignment_of_equals void foundLower, readAssignment_of_equals void found,
      skipSpace_lower, readValue_lower]
  · have otherLower : (Text.skipSpace (Text.lower text)).head?.any (· == '=') = false := by
      rw [skipSpace_lower]
      cases found : Text.skipSpace text with
      | nil => rfl
      | cons c rest =>
        rw [found] at other
        exact beq_eq_false_iff_ne.mpr (toLower_ne_mark (by decide) (beq_eq_false_iff_ne.mp other))
    rw [readAssignment_of_other void otherLower, readAssignment_of_other void other,
      skipSpace_lower]
    rfl

theorem written_lower (void : Bool) (text : Text) :
    written void (Text.lower text) = (written void text).map Attribute.lower := by
  fun_induction written void text with
  | case1 => rw [lower_nil, written_nil, List.map_nil]
  | case2 c rest named assigned ih =>
    have namedLower : isNameChar c.toLower = true := (caseBlind_isNameChar c).trans named
    rw [lower_cons, written_cons void namedLower, takeWhile_lower caseBlind_isNameChar,
      dropWhile_lower caseBlind_isNameChar, readAssignment_lower]
    simp only [Prod.map_fst, Prod.map_snd, trim_lower]
    exact congrArg (_ :: ·) ih
  | case3 c rest other ih =>
    have otherLower : isNameChar c.toLower = false :=
      (caseBlind_isNameChar c).trans (Bool.eq_false_iff.mpr other)
    rw [lower_cons, written_of_skipped void otherLower, ih]

theorem insertInto_lower (name value : Text) (entries : List Attribute) :
    insertInto (Text.lower name) (Text.lower value) (entries.map Attribute.lower) =
      (insertInto name value entries).map Attribute.lower := by
  induction entries with
  | nil => rfl
  | cons entry rest ih =>
    have same : sameName (Text.lower entry.name) (Text.lower name) = sameName entry.name name := by
      rw [sameName_lower_left, sameName_lower_right]
    simp only [List.map_cons, insertInto, Attribute.lower, same]
    split
    · rfl
    · exact congrArg (_ :: ·) ih

theorem ofList_lower (entries : List Attribute) :
    ofList (entries.map Attribute.lower) = (ofList entries).lower := by
  suffices general : ∀ attributes : Attributes,
      (entries.map Attribute.lower).foldl (fun held entry => held.insert entry.name entry.value)
        attributes.lower =
      (entries.foldl (fun held entry => held.insert entry.name entry.value) attributes).lower from
    general empty
  intro attributes
  induction entries generalizing attributes with
  | nil => rfl
  | cons entry rest ih =>
    rw [List.map_cons, List.foldl_cons, List.foldl_cons, ← ih]
    congr 1
    exact congrArg Attributes.mk (insertInto_lower entry.name entry.value attributes.toList)

theorem ofTag_lower (void : Bool) (area : Text) :
    ofTag void (Text.lower area) = (ofTag void area).lower := by
  rw [ofTag, written_lower, ofList_lower, ofTag]

end Attributes

/-! ## Elements -/

theorem Element.ofSlice?_lower (slice : Text) :
    Element.ofSlice? (Text.lower slice) = (Element.ofSlice? slice).map Element.lower := by
  have opens : CaseBlind (· != '<') := caseBlind_bne (by decide)
  have closes : CaseBlind (· != '>') := caseBlind_bne (by decide)
  have marks : ∀ c ∈ ['<', '/'], c.isAlpha = false := by simp
  simp only [Element.ofSlice?, dropWhile_lower opens, drop_lower, takeWhile_lower caseBlind_isWord,
    isEmpty_lower, length_lower, takeWhile_lower closes, dropWhile_lower closes,
    beforeLast?_lower marks, Category.ofName_lower, Attributes.ofTag_lower]
  split
  · rfl
  · have innerText (before : Option Text) :
        (before.map Text.lower).getD [] = Text.lower (before.getD []) := by cases before <;> rfl
    rw [innerText, Markup.closeUnmatched_lower]
    rfl

namespace Markup

/-- The elements of a slice in small letters, if those of its inner text are in small letters. -/
theorem elementsOf_lower {slice : Slice}
    (inside : ∀ element, Element.ofSlice? slice.text = some element → slice.origin = .scanned →
      '<' ∈ element.innerText → extractRecursively (lower element.innerText) =
        (extractRecursively element.innerText).map Element.lower) :
    elementsOf slice.lower = (elementsOf slice).map Element.lower := by
  have read : Element.ofSlice? slice.lower.text = _ := Element.ofSlice?_lower slice.text
  rw [elementsOf, elementsOf, read]
  cases found : Element.ofSlice? slice.text with
  | none => rfl
  | some element =>
    have enters : (slice.lower.origin = .scanned ∧ isRawText slice.lower.name = false ∧
        '<' ∈ element.lower.innerText) ↔
        slice.origin = .scanned ∧ isRawText slice.name = false ∧ '<' ∈ element.innerText := by
      simp only [Slice.lower, Element.lower, isRawText_lower]
      rw [mem_lower_iff (by decide)]
    simp only [Option.map_some, List.map_cons, enters]
    split
    · rename_i scanned
      exact congrArg (_ :: ·) (inside element found scanned.1 scanned.2.2)
    · rfl

theorem extractRecursively_lower (html : Text) :
    extractRecursively (lower html) = (extractRecursively html).map Element.lower := by
  induction size : html.length using Nat.strongRecOn generalizing html with
  | _ n ih =>
    rw [extractRecursively_eq, extractRecursively_eq, slices_lower, List.flatMap_map,
      List.map_flatMap]
    apply List.flatMap_congr
    intro slice member
    apply elementsOf_lower
    intro element read scanned markup
    have shorter := innerText_length_lt member read scanned markup
    exact ih _ (size ▸ shorter) element.innerText rfl

/-- The elements of a document in small letters are its elements in small letters. -/
theorem extract_lower (mode : ExtractMode) (html : Text) :
    extract mode (lower html) = (extract mode html).map Element.lower := by
  cases mode with
  | shallow =>
    rw [extract, extract, extractShallow, extractShallow, slices_lower, List.filterMap_map,
      List.map_filterMap]
    exact List.filterMap_congr fun slice _ => Element.ofSlice?_lower slice.text
  | deep =>
    rw [extract, extract, extractDeep_eq_flatMap, extractDeep_eq_flatMap, ← extractRecursively_eq,
      ← extractRecursively_eq, extractRecursively_lower]

/-- Lower-casing a document gives as many slices, of the same categories and origins, and with the
lower-cased texts and names; and it gives the elements with everything in them lower-cased. -/
theorem lower_slices_and_elements (options : ScanOptions) (mode : ExtractMode) (html : Text) :
    (slices options (lower html)).map
        (fun slice => (slice.text, slice.name, slice.category, slice.origin)) =
      (slices options html).map
        (fun slice => (lower slice.text, lower slice.name, slice.category, slice.origin)) ∧
    extract mode (lower html) = (extract mode html).map fun element =>
      ⟨lower element.name,
        ⟨element.attributes.toList.map fun entry => ⟨lower entry.name, lower entry.value⟩⟩,
        lower element.innerText⟩ := by
  refine ⟨?_, extract_lower mode html⟩
  rw [slices_lower, List.map_map]
  apply List.map_congr_left
  intro slice _
  simp only [Function.comp_apply, Slice.category_lower]
  rfl

/-- Only ASCII letters are lower-cased. -/
example :
    let html := "<DIV Id='Ä'>B</div>".toList
    extract .shallow html = [⟨"DIV".toList, ⟨[⟨"Id".toList, ['Ä']⟩]⟩, ['B']⟩] ∧
      extract .shallow (lower html) =
        [⟨"div".toList, ⟨[⟨"id".toList, ['Ä']⟩]⟩, ['b']⟩] := by
  decide +kernel

end Markup

end TagQuery
