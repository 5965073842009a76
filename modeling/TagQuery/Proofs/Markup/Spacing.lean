import TagQuery.Proofs.Markup.Respacing

/-!
# Documents with other white space

Documents in step fall into segments with the same names and attributes (`Respaced.shallowIn_eq`),
and two writings of one forest are in step (`Forest.WrittenAs.respaced`). Shallow extraction
therefore reports the same of both, with any white space between the name of a tag and its
attributes (`tags_extractShallow_eq`).

Line feeds are white space for the reading of attributes, but they are removed before a document is
read. Behind the name of a tag they do not count (`extractShallow_lineFeed`).
-/

namespace TagQuery.Markup

/-- Two segments cut off in front of documents in step, with the same names and attributes. -/
structure SameStep (first second : Segment × Text) : Prop where
  tags : first.1.elements.map Element.tag = second.1.elements.map Element.tag
  later : Respaced false first.2 second.2

/-- Two areas of a name that decide the same, whatever follows in step. -/
structure SameTag (name area other : Text) : Prop where
  here : IsOpening name area
  there : IsOpening name other
  means : attributesOf name area = attributesOf name other
  closes : closesItself area = closesItself other
  inside : ∀ {first second : Text}, Respaced false first second →
    (fragmentsIn (name ++ area ++ ['>'] ++ first)).map Element.tag =
      (fragmentsIn (name ++ other ++ ['>'] ++ second)).map Element.tag

theorem IsOpening.sameTag {name area : Text} (opening : IsOpening name area) :
    SameTag name area area where
  here := opening
  there := opening
  means := rfl
  closes := rfl
  inside {first second} later := by
    have absent : '>' ∉ name ++ area := by
      simpa [opening.plain] using Text.notMem_of_word opening.word (by decide)
    have whole := Respaced.prepend_unclosed absent (.stop later)
    simpa using whole.fragmentsIn_eq

theorem PlainTag.sameTag {name area other : Text} {attributes : Attributes}
    (here : PlainTag name area attributes) (there : PlainTag name other attributes) :
    SameTag name area other where
  here := here.toIsOpening
  there := there.toIsOpening
  means := here.means.trans there.means.symm
  closes := here.closesItself_eq.trans there.closesItself_eq.symm
  inside later := by
    rw [fragmentsIn_append_of_notMem (here.notMem_tail here.unopened),
      fragmentsIn_append_of_notMem (there.notMem_tail there.unopened), later.fragmentsIn_eq]

/-- The name and the attributes of an element, and those of its fragments. -/
theorem IsOpening.tags_element {name area : Text} (opening : IsOpening name area)
    (body closing : Text) :
    (Segment.element (openingTag name area) body closing).elements.map Element.tag =
      (name, attributesOf name area) ::
        if Category.ofName name = .nestable ∧ countOpeners name (body ++ closing) ≠ 0 then
          (fragmentsIn (name ++ area ++ ['>'] ++ (body ++ closing))).map Element.tag
        else [] := by
  have read := opening.ofSlice?_openingTag (body ++ closing)
  have nested := opening.filterMap_nested (body ++ closing)
  rw [← List.append_assoc (openingTag name area)] at read nested
  rw [Segment.elements_element read, nested, List.map_cons, Element.tag]
  split <;> rfl

/-! ## Steps -/

section Step
variable {first second : Text}

theorem cutAside_sameStep (later : Respaced true first second) :
    SameStep (cutAside first) (cutAside second) := by
  obtain ⟨inner, back, other, absent, rfl, rfl, rest⟩ := later.exists_stop
  rw [cutAside, cutAside, Text.splitAfter?_append back absent, Text.splitAfter?_append other absent]
  exact ⟨rfl, rest⟩

theorem cutComment_eq (inside : Text) :
    (cutComment inside).1.elements = [] ∧
      (cutComment inside).2 = (afterComment? inside).getD [] := by
  rw [cutComment, afterComment?]
  cases Text.splitAfterPattern? ['-', '-', '>'] inside <;> exact ⟨rfl, rfl⟩

theorem cutComment_sameStep (later : Respaced false first second) :
    SameStep (cutComment first) (cutComment second) := by
  obtain ⟨none, rest⟩ := cutComment_eq first
  obtain ⟨noneAgain, other⟩ := cutComment_eq second
  refine ⟨by rw [none, noneAgain], ?_⟩
  have same := later.afterComment?_rel
  rw [rest, other]
  generalize afterComment? first = after, afterComment? second = again at same
  cases same with
  | none => exact .nil
  | some related => exact related

/-- Behind two tags that decide the same, documents in step are cut at corresponding places. -/
theorem SameTag.sameStep {name area other : Text} (same : SameTag name area other)
    (lineBreak : isLineBreak name = false) (later : Respaced false first second) :
    SameStep (cutMarkup {} (name ++ area ++ ['>'] ++ first))
      (cutMarkup {} (name ++ other ++ ['>'] ++ second)) := by
  have ends : endsAtOpening {} name area = endsAtOpening {} name other := by
    rw [endsAtOpening, endsAtOpening, same.closes]
  rw [same.here.cutMarkup_eq {} lineBreak, same.there.cutMarkup_eq {} lineBreak, ends]
  split
  · refine ⟨?_, later⟩
    simp [same.here.elements_tag, same.there.elements_tag, Element.tag, same.means]
  · have tag := same.here.toIsTagName
    have cut := later.balance_rel tag 0
    generalize balance name 0 first = found, balance name 0 second = again at cut
    cases cut with
    | none => exact ⟨rfl, later⟩
    | @some found again cut =>
      obtain ⟨body, _⟩ := found
      obtain ⟨text, _⟩ := again
      obtain ⟨closing, back, rest, size, rfl, rfl, whole, onward⟩ := cut
      simp only [← size, List.take_left, List.drop_left]
      refine ⟨?_, onward⟩
      rw [same.here.tags_element, same.there.tags_element, same.means, whole.countOpeners_eq tag,
        same.inside whole]

theorem startsAside_of_mark {c : Char} {text : Text} (mark : c = '!' ∨ c = '?' ∨ c = '/')
    (other : ¬ ['!', '-', '-'] <+: c :: text) : StartsAside (c :: text) := by
  rcases mark with rfl | rfl | rfl
  · exact .inl ⟨text, rfl, fun hyphens => other ((List.prefix_cons_inj '!').mpr hyphens)⟩
  · exact .inr (.inl ⟨text, rfl⟩)
  · exact .inr (.inr (.inl ⟨text, rfl⟩))

/-- Behind a `<` without a name documents in step have the same mark, or none. -/
theorem cutMarkup_sameStep_of_unnamed (later : Respaced true first second)
    (unnamed : ∀ c ∈ first.head?, Text.isWord c = false) :
    SameStep (cutMarkup {} first) (cutMarkup {} second) := by
  have comment : Option.Rel (Respaced false) (Text.strip? ['!', '-', '-'] first)
      (Text.strip? ['!', '-', '-'] second) := later.outward.strip?_rel (by decide)
  generalize found : Text.strip? ['!', '-', '-'] first = inside,
    again : Text.strip? ['!', '-', '-'] second = other at comment
  cases comment with
  | some same =>
    rw [Text.strip?_eq_some_iff.mp found, Text.strip?_eq_some_iff.mp again]
    exact cutComment_sameStep same
  | none =>
    have here := Text.strip?_eq_none_iff.mp found
    have there := Text.strip?_eq_none_iff.mp again
    have bracket {c : Char} {front back : Text} (same : Respaced true (c :: front) (c :: back))
        (unnamed : Text.isWord c = false) (mark : ¬ (c = '!' ∨ c = '?' ∨ c = '/')) :
        SameStep (cutMarkup {} (c :: front)) (cutMarkup {} (c :: back)) := by
      have plain (rest : Text) : ∀ d ∈ (c :: rest).head?,
          Text.isWord d = false ∧ d ≠ '!' ∧ d ≠ '?' ∧ d ≠ '/' := by
        rintro d first
        obtain rfl := Option.some.inj first
        simpa [unnamed] using mark
      rw [cutMarkup_of_bracket {} (plain front), cutMarkup_of_bracket {} (plain back)]
      exact ⟨rfl, same.outward⟩
    -- nothing in front of the next `>` is white space of a tag, so the marks are the same
    cases later with
    | stop rest => exact bracket (.stop rest) (by decide) (by decide)
    | @inside c _ _ other later =>
      by_cases mark : c = '!' ∨ c = '?' ∨ c = '/'
      · rw [cutMarkup_of_startsAside {} (startsAside_of_mark mark here),
          cutMarkup_of_startsAside {} (startsAside_of_mark mark there)]
        exact cutAside_sameStep (.inside other later)
      · exact bracket (.inside other later) (unnamed c rfl) mark

/-- At a `<` that is no part of a respaced tag, the same is cut off. -/
theorem cutMarkup_sameStep (later : Respaced true first second) :
    SameStep (cutMarkup {} first) (cutMarkup {} second) := by
  obtain ⟨inner, back, other, absent, rfl, rfl, rest⟩ := later.exists_stop
  obtain ⟨name, area, rfl, word, ends⟩ := Text.exists_run Text.isWord inner
  by_cases named : name = []
  · refine cutMarkup_sameStep_of_unnamed later ?_
    subst named
    cases area with
    | nil => exact Text.stop_of_cons (by decide) back
    | cons c area => exact ends
  · have opening : IsOpening name area :=
      ⟨⟨named, word⟩, ends, fun present => absent (List.mem_append_right name present)⟩
    cases lineBreak : isLineBreak name with
    | true =>
      have cut (rest : Text) := cutMarkup_of_name {} opening.toIsTagName (opening.ends_before rest)
      simp only [lineBreak, ↓reduceIte, ← List.append_assoc] at cut
      rw [cut, cut]
      exact cutAside_sameStep later
    | false => simpa using opening.sameTag.sameStep lineBreak rest

theorem PlainTag.cutMarkup_sameStep {name area other : Text} {attributes : Attributes}
    (here : PlainTag name area attributes) (there : PlainTag name other attributes)
    (later : Respaced false first second) :
    SameStep (cutMarkup {} (name ++ area ++ ['>'] ++ first))
      (cutMarkup {} (name ++ other ++ ['>'] ++ second)) := by
  cases lineBreak : isLineBreak name with
  | true =>
    have cut {area : Text} (opening : IsOpening name area) (rest : Text) :
        cutMarkup {} (name ++ area ++ ['>'] ++ rest) =
          (.aside (openingTag name area), rest) := by
      have aside := cutMarkup_of_name {} opening.toIsTagName (opening.ends_before rest)
      rw [lineBreak, if_pos rfl, ← List.append_assoc, cutAside, opening.splitAfter? rest] at aside
      simpa [openingTag] using aside
    rw [cut here.toIsOpening, cut there.toIsOpening]
    exact ⟨rfl, later⟩
  | false => exact (here.sameTag there).sameStep lineBreak later

end Step

/-- Documents in step give the same names and attributes. -/
theorem Respaced.shallowIn_eq {first second : Text} (same : Respaced false first second) :
    (shallowIn first).map Element.tag = (shallowIn second).map Element.tag := by
  induction size : first.length using Nat.strongRecOn generalizing first second with
  | _ n ih =>
    have markup {first second : Text} (step : SameStep (cutMarkup {} first) (cutMarkup {} second))
        (shorter : first.length < n) :
        (shallowIn ('<' :: first)).map Element.tag =
          (shallowIn ('<' :: second)).map Element.tag := by
      rw [shallowIn_markup, shallowIn_markup, List.map_append, List.map_append, step.tags]
      have rest := Nat.lt_of_le_of_lt (cutMarkup_length_le {} first) shorter
      rw [ih _ rest step.later rfl]
    cases same with
    | nil => rfl
    | @outside c first second other later =>
      have absent : '<' ∉ [c] := by simpa using other.symm
      rw [← List.singleton_append, shallowIn_append_of_notMem absent, ← List.singleton_append,
        shallowIn_append_of_notMem absent]
      exact ih _ (by simp [← size]) later rfl
    | start later => exact markup (cutMarkup_sameStep later) (by simp [← size])
    | tag here there later =>
      exact markup (here.cutMarkup_sameStep there later) (by simp [← size, openingTag])

/-! ## Writings -/

theorem Respaced.closer {name first second : Text} (tag : IsTagName name)
    (later : Respaced false first second) (within : Bool) :
    Respaced within (closer name ++ first) (closer name ++ second) := by
  have absent : '>' ∉ '/' :: name := by simpa using Text.notMem_of_word tag.word (by decide)
  simpa [Markup.closer] using markup (prepend_unclosed absent (.stop later))

/-- Without the line feeds, what stands in two tags of one name reads the same. -/
theorem IsTag.respaced {name area other first second : Text} {attributes : List Attribute}
    (here : IsTag name attributes area) (there : IsTag name attributes other)
    (later : Respaced false (withoutLineFeeds first) (withoutLineFeeds second)) :
    Respaced false (withoutLineFeeds (openingTag name area ++ first))
      (withoutLineFeeds (openingTag name other ++ second)) := by
  have named : withoutLineFeeds name = name :=
    withoutLineFeeds_eq (Text.notMem_of_word here.word (by decide))
  rw [withoutLineFeeds_append, withoutLineFeeds_append, withoutLineFeeds_openingTag,
    withoutLineFeeds_openingTag, named]
  exact .tag here.plainTag there.plainTag later

/-- Two writings of one forest are in step. -/
theorem Forest.WrittenAs.respaced {forest : Forest} {first second : Text}
    (here : forest.WrittenAs first) (there : forest.WrittenAs second) :
    Respaced false (withoutLineFeeds first) (withoutLineFeeds second) := by
  have closed {name first second : Text} (tag : IsTagName name)
      (later : Respaced false (withoutLineFeeds first) (withoutLineFeeds second)) (within : Bool) :
      Respaced within (withoutLineFeeds (closer name ++ first))
        (withoutLineFeeds (closer name ++ second)) := by
    have named : withoutLineFeeds name = name :=
      withoutLineFeeds_eq (Text.notMem_of_word tag.word (by decide))
    rw [withoutLineFeeds_append, withoutLineFeeds_append, withoutLineFeeds_closer, named]
    exact later.closer tag within
  induction here generalizing second with
  | nil =>
    cases there
    exact .nil
  | text unopened _ ih =>
    cases there with
    | text _ after =>
      rw [withoutLineFeeds_append, withoutLineFeeds_append]
      exact (ih after).prepend_plain fun present => unopened (List.mem_filter.mp present).1
  | void tag void _ ih =>
    cases there with
    | void again _ after => exact tag.respaced again (ih after)
    | raw _ raw => exact absurd void (not_void_of_isRawText raw)
    | element _ visible => exact absurd void visible
  | @raw _ _ _ _ children _ tag raw _ _ ih =>
    cases there with
    | void _ void => exact absurd void (not_void_of_isRawText raw)
    | raw again _ _ after =>
      refine tag.respaced again ?_
      rw [withoutLineFeeds_append children.render, withoutLineFeeds_append children.render]
      exact Respaced.prepend _ (closed tag.toIsTagName (ih after)) false
    | element _ _ markup =>
      rw [raw] at markup
      cases markup
  | @element _ _ text _ _ _ _ tag visible markup _ _ insideIh laterIh =>
    cases there with
    | void _ void => exact absurd void visible
    | raw _ raw =>
      rw [markup] at raw
      cases raw
    | @element _ _ inner _ _ _ _ again _ _ within after =>
      refine tag.respaced again ?_
      rw [withoutLineFeeds_append text, withoutLineFeeds_append inner]
      exact (insideIh within).append (closed tag.toIsTagName (laterIh after) false)

/-- Of all writings of a forest shallow extraction reports the same names and attributes. -/
theorem tags_extractShallow_eq {forest : Forest} {first second : Text}
    (here : forest.WrittenAs first) (there : forest.WrittenAs second) :
    (extractShallow second).map Element.tag = (extractShallow first).map Element.tag := by
  rw [extractShallow_eq_shallowIn, extractShallow_eq_shallowIn]
  exact (here.respaced there).shallowIn_eq.symm

/-- Two writings of a paragraph with a script in it. -/
theorem tags_extractShallow_eq_script :
    let script : Forest := .element "script".toList [] (.text "x<b".toList .nil) .nil
    let forest : Forest := .element "p".toList [⟨"a".toList, "1".toList⟩] script .nil
    let first := "<p a=\"1\"><script>x<b</script></p>".toList
    let second := "<p\t\na=\"1\"\r><script\n>x<b</script></p>".toList
    forest.WrittenAs first ∧ forest.WrittenAs second ∧
      (extractShallow second).map Element.tag = (extractShallow first).map Element.tag ∧
      (extractShallow first).map Element.tag =
        [("p".toList, ⟨[⟨"a".toList, "1".toList⟩]⟩)] := by
  intro script forest first second
  have quotable : IsQuotable ⟨"a".toList, "1".toList⟩ :=
    ⟨by decide, by decide, by decide, by decide, by decide⟩
  have plain (gap : Text) (blank : ∀ c ∈ gap, Text.isSpace c = true)
      (ends : ∀ c ∈ (withoutLineFeeds gap).head?, Text.isWord c = false) :
      IsTag "script".toList [] gap := ⟨by decide, .nil blank, ends⟩
  have tag (gap last : Text) (blank : ∀ c ∈ gap, Text.isSpace c = true)
      (after : ∀ c ∈ last, Text.isSpace c = true)
      (ends : ∀ c ∈ (withoutLineFeeds (gap ++ ("a".toList ++
        '=' :: '"' :: ("1".toList ++ '"' :: last)))).head?, Text.isWord c = false) :
      IsTag "p".toList [⟨"a".toList, "1".toList⟩]
        (gap ++ ("a".toList ++ '=' :: '"' :: ("1".toList ++ '"' :: last))) :=
    ⟨by decide, .cons blank quotable (.nil after), ends⟩
  have here : forest.WrittenAs first :=
    .element (tag " ".toList [] (by decide) (by decide) (by decide)) (by decide) (by decide)
      (.raw (plain [] (by decide) (by decide)) (by decide) rfl .nil) .nil
  have there : forest.WrittenAs second :=
    .element (tag "\t\n".toList "\r".toList (by decide) (by decide) (by decide)) (by decide)
      (by decide) (.raw (plain "\n".toList (by decide) (by decide)) (by decide) rfl .nil) .nil
  exact ⟨here, there, tags_extractShallow_eq here there, by decide +kernel⟩

/-- A line feed behind the name of a tag does not keep it apart from an attribute. -/
theorem extractShallow_lineFeed :
    let forest : Forest := .element "a".toList [⟨"b".toList, "1".toList⟩] .nil .nil
    forest.WellFormed ∧ forest.render = "<a b=\"1\"></a>".toList ∧
      forest.render[2]? = some ' ' ∧ Text.isSpace '\n' = true ∧
      forest.render.set 2 '\n' = "<a\nb=\"1\"></a>".toList ∧
      (extractShallow forest.render).map Element.tag =
        [("a".toList, ⟨[⟨"b".toList, "1".toList⟩]⟩)] ∧
      (extractShallow (forest.render.set 2 '\n')).map Element.tag = [] := by
  intro forest
  have writable : ∀ entry ∈ [(⟨"b".toList, "1".toList⟩ : Attribute)], IsWritable entry := by
    intro entry member
    obtain rfl := List.mem_singleton.mp member
    exact ⟨by decide, by decide, by decide, by decide, by decide, by decide⟩
  have formed : forest.WellFormed :=
    .element (by decide) (by decide) writable (absurd · (by decide)) (by decide) .nil .nil
  exact ⟨formed, by decide, by decide, by decide, by decide, by decide +kernel, by decide +kernel⟩

end TagQuery.Markup
