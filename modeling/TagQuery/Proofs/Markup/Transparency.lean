import TagQuery.Proofs.Markup.Preorder

/-!
# Comments and raw bodies

Which elements are reported, with which attributes, does not depend on comments, nor on what stands
in scripts, styles and text areas, as long as these texts are harmless to the elements around them
(`Quiet`). At the top level of a document nothing is around them, and every comment is harmless
(`harmless_nil`). Well-formed forests are quiet as they are (`WellFormed.quiet`).

Both statements compare two documents, and are about the sequence of names and attributes
(`Element.tag`). Of a quiet forest that sequence can be read off the forest (`Forest.tags`), and
neither an inserted comment (`Inserts`) nor another raw body (`SameButRaw`) changes it there. Line
feeds are removed before a document is read, also those in a `-->` or in a closer, so that the
texts have to be harmless without them (`Forest.oneLine`).
-/

namespace TagQuery

/-- The name and the attributes of an element. -/
def Element.tag (element : Element) : Text × Attributes := (element.name, element.attributes)

namespace Markup

/-- The names and attributes in a forest in pre-order, without the line breaks. -/
def Forest.tags : Forest → List (Text × Attributes)
  | nil => []
  | text _ rest => rest.tags
  | element name attributes children rest =>
    (if isLineBreak name then [] else [(name, Attributes.ofList (attributes.map trimValue))]) ++
      (children.tags ++ rest.tags)

/-- The name of an element of a forest, and the attributes that it is reported with. -/
def Place.tag (place : Place) : Text × Attributes :=
  (place.name, Attributes.ofList (place.attributes.map trimValue))

theorem Place.Reported.tag_eq {place : Place} {element : Element} (reported : place.Reported element) :
    element.tag = place.tag := by
  rw [Element.tag, reported.name, reported.attributes, Place.tag]

theorem Place.map_tag {R : Place → Element → Prop} {places : List Place} {elements : List Element}
    (related : List.Forall₂ R places elements)
    (same : ∀ place element, R place element → element.tag = place.tag) :
    elements.map Element.tag = places.map Place.tag := by
  induction related with
  | nil => rfl
  | cons here _ ih => rw [List.map_cons, List.map_cons, ih, same _ _ here]

theorem Forest.map_reported (forest : Forest) (ancestors : List (Text × Forest)) :
    (forest.reported ancestors).map Place.tag = forest.tags := by
  induction forest generalizing ancestors with
  | nil => rfl
  | text _ _ ih => exact ih ancestors
  | element name attributes children rest insideIh laterIh =>
    rw [Forest.reported_element, List.map_append, List.map_append, insideIh, laterIh, Forest.tags]
    cases lineBreak : isLineBreak name <;> simp [lineBreak, Place.tag]

theorem Forest.tags_of_isText {forest : Forest} (plain : forest.isText = true) :
    forest.tags = [] := by
  rw [← forest.map_reported [], reported_of_isText plain, List.map_nil]

/-! ## Line feeds -/

/-- A text without its line feeds. -/
def withoutLineFeeds (text : Text) : Text := text.filter (· != '\n')

/-- A forest without the line feeds in its texts and values. -/
def Forest.oneLine : Forest → Forest
  | nil => nil
  | text run rest => text (withoutLineFeeds run) rest.oneLine
  | element name attributes children rest =>
    element name (attributes.map fun entry => ⟨entry.name, withoutLineFeeds entry.value⟩)
      children.oneLine rest.oneLine

theorem withoutLineFeeds_append (first second : Text) :
    withoutLineFeeds (first ++ second) = withoutLineFeeds first ++ withoutLineFeeds second :=
  List.filter_append ..

theorem withoutLineFeeds_eq {text : Text} (absent : '\n' ∉ text) : withoutLineFeeds text = text :=
  List.filter_eq_self.mpr (Text.all_bne_of_notMem absent)

theorem withoutLineFeeds_comment (content : Text) :
    withoutLineFeeds (comment content) = comment (withoutLineFeeds content) := by
  simp [withoutLineFeeds, comment]

theorem withoutLineFeeds_openingTag (name area : Text) :
    withoutLineFeeds (openingTag name area) =
      openingTag (withoutLineFeeds name) (withoutLineFeeds area) := by
  simp [withoutLineFeeds, openingTag]

theorem withoutLineFeeds_closer (name : Text) :
    withoutLineFeeds (closer name) = closer (withoutLineFeeds name) := by
  simp [withoutLineFeeds, closer]

theorem notMem_withoutLineFeeds (text : Text) : '\n' ∉ withoutLineFeeds text := by
  simp [withoutLineFeeds]

namespace Forest

@[simp] theorem hasName_oneLine (name : Text) (forest : Forest) :
    forest.oneLine.hasName name = forest.hasName name := by
  induction forest with
  | nil => rfl
  | text _ _ ih => exact ih
  | element _ _ _ _ insideIh laterIh => simp [oneLine, hasName, insideIh, laterIh]

@[simp] theorem isText_oneLine (forest : Forest) : forest.oneLine.isText = forest.isText := by
  induction forest with
  | nil => rfl
  | text _ _ ih => exact ih
  | element => rfl

theorem render_oneLine_of_isText {forest : Forest} (plain : forest.isText = true) :
    withoutLineFeeds forest.render = forest.oneLine.render := by
  induction forest with
  | nil => rfl
  | text run rest ih => rw [render, withoutLineFeeds_append, ih plain, oneLine, render]
  | element => cases plain

theorem withoutLineFeeds_writeAttributes {attributes : List Attribute}
    (writable : ∀ entry ∈ attributes.map (fun entry =>
      (⟨entry.name, withoutLineFeeds entry.value⟩ : Attribute)), IsWritable entry) :
    withoutLineFeeds (writeAttributes attributes) = writeAttributes (attributes.map fun entry =>
      ⟨entry.name, withoutLineFeeds entry.value⟩) := by
  induction attributes with
  | nil => rfl
  | cons entry rest ih =>
    obtain ⟨first, later⟩ := List.forall_mem_cons.mp writable
    have named : withoutLineFeeds entry.name = entry.name := by
      refine withoutLineFeeds_eq fun present => ?_
      exact absurd (first.named _ present) (by decide)
    have here : withoutLineFeeds (writeAttribute entry) =
        writeAttribute ⟨entry.name, withoutLineFeeds entry.value⟩ :=
      calc withoutLineFeeds (writeAttribute entry)
        _ = writeAttribute ⟨withoutLineFeeds entry.name, withoutLineFeeds entry.value⟩ := by
          simp [withoutLineFeeds, writeAttribute]
        _ = writeAttribute ⟨entry.name, withoutLineFeeds entry.value⟩ := by rw [named]
    rw [writeAttributes, List.flatMap_cons, withoutLineFeeds_append, here, ← writeAttributes,
      ih later]
    rfl

theorem Quiet.of_text {around : List Enclosing} {run : Text} {rest : Forest}
    (quiet : (Forest.text run rest).Quiet around) : rest.Quiet around := by
  cases quiet <;> assumption

/-- The line feeds in a document are those in its texts and values. -/
theorem render_oneLine {around : List Enclosing} {forest : Forest}
    (quiet : forest.oneLine.Quiet around) :
    withoutLineFeeds forest.render = forest.oneLine.render := by
  induction forest generalizing around with
  | nil => rfl
  | text run rest ih =>
    rw [render, withoutLineFeeds_append, ih quiet.of_text, oneLine, render]
  | element name attributes children rest insideIh laterIh =>
    obtain ⟨tag, writable, inside, later⟩ : IsTagName name ∧
        (∀ entry ∈ attributes.map (fun entry =>
          (⟨entry.name, withoutLineFeeds entry.value⟩ : Attribute)), IsWritable entry) ∧
        withoutLineFeeds children.render = children.oneLine.render ∧ rest.oneLine.Quiet around := by
      cases quiet with
      | raw _ tag writable plain _ _ later =>
        exact ⟨tag, writable, render_oneLine_of_isText (by simpa using plain), later⟩
      | element _ tag writable _ inside later => exact ⟨tag, writable, insideIh inside, later⟩
    -- A tag name has no line feeds to lose, and neither have the names of attributes.
    have named : withoutLineFeeds name = name :=
      withoutLineFeeds_eq (Text.notMem_of_word tag.word (by decide))
    have opening : withoutLineFeeds (openingTag name (writeAttributes attributes)) =
        openingTag name (writeAttributes (attributes.map fun entry =>
          ⟨entry.name, withoutLineFeeds entry.value⟩)) := by
      rw [withoutLineFeeds_openingTag, named, withoutLineFeeds_writeAttributes writable]
    rw [render, withoutLineFeeds_append, withoutLineFeeds_append, opening, laterIh later, oneLine,
      render]
    split
    · rfl
    · rw [withoutLineFeeds_append, inside, withoutLineFeeds_closer, named]

end Forest

/-- Of a document that is quiet without its line feeds, the elements of the forest are reported. -/
theorem tags_extractDeep {forest : Forest} (quiet : forest.oneLine.Quiet []) :
    (extractDeep forest.render).map Element.tag = forest.oneLine.tags := by
  have none : Place.enclosing [] = [] := rfl
  obtain ⟨elements, found, reported⟩ := quiet.reports_elementsIn none []
  rw [List.append_nil, elementsIn_nil, List.append_nil] at found
  have read : extractDeep forest.render = elements := by
    rw [extractDeep_eq_elementsIn, ← found, ← forest.render_oneLine quiet, withoutLineFeeds]
  rw [read, Place.map_tag reported fun _ _ => Place.Reported.tag_eq, Forest.map_reported]

/-! ## Inserted texts -/

/-- The second forest is the first one with a text between two of its nodes, `around` being the
elements around that place. -/
inductive Forest.Inserts (run : Text) (around : List Enclosing) :
    List Enclosing → Forest → Forest → Prop
  | here {forest : Forest} : Inserts run around around forest (.text run forest)
  | text {outer : List Enclosing} {other : Text} {rest longer : Forest}
      (later : Inserts run around outer rest longer) :
      Inserts run around outer (.text other rest) (.text other longer)
  | element {outer : List Enclosing} {name : Text} {attributes : List Attribute}
      {children rest longer : Forest} (later : Inserts run around outer rest longer) :
      Inserts run around outer (.element name attributes children rest)
        (.element name attributes children longer)
  | inside {outer : List Enclosing} {name : Text} {attributes : List Attribute}
      {children longer rest : Forest} (markup : isRawText name = false)
      (visible : Category.ofName name ≠ .void)
      (within : Inserts run around (⟨name, children.hasName name⟩ :: outer) children longer) :
      Inserts run around outer (.element name attributes children rest)
        (.element name attributes longer rest)

namespace Forest.Inserts
variable {run : Text} {around outer : List Enclosing} {forest longer : Forest}

theorem hasName_eq (inserts : Inserts run around outer forest longer) (name : Text) :
    longer.hasName name = forest.hasName name := by
  induction inserts with
  | here => rfl
  | text _ ih => exact ih
  | element _ ih => rw [hasName, hasName, ih]
  | inside _ _ _ ih => rw [hasName, hasName, ih]

theorem tags_eq (inserts : Inserts run around outer forest longer) : longer.tags = forest.tags := by
  induction inserts with
  | here => rfl
  | text _ ih => exact ih
  | element _ ih => rw [tags, tags, ih]
  | inside _ _ _ ih => rw [tags, tags, ih]

theorem oneLine (inserts : Inserts run around outer forest longer) :
    Inserts (withoutLineFeeds run) around outer forest.oneLine longer.oneLine := by
  induction inserts with
  | here => exact .here
  | text _ ih => exact .text ih
  | element _ ih => exact .element ih
  | inside markup visible _ ih => exact .inside markup visible (by simpa using ih)

/-- A harmless comment keeps a forest quiet. -/
theorem quiet {content : Text} (inserts : Inserts (comment content) around outer forest longer)
    (quiet : forest.Quiet outer) (closed : ¬ ['-', '-', '>'] <:+: content)
    (oneLine : '\n' ∉ content) (harmless : Harmless around content ['-', '-', '>']) :
    longer.Quiet outer := by
  induction inserts with
  | here => exact .comment closed oneLine harmless quiet
  | text _ ih =>
    cases quiet with
    | text unopened oneLine later => exact .text unopened oneLine (ih later)
    | comment closed oneLine harmless later => exact .comment closed oneLine harmless (ih later)
  | element _ ih =>
    cases quiet with
    | raw raw tag writable plain oneLine harmless later =>
      exact .raw raw tag writable plain oneLine harmless (ih later)
    | element markup tag writable empty inside later =>
      exact .element markup tag writable empty inside (ih later)
  | inside markup visible within ih =>
    cases quiet with
    | raw raw =>
      rw [markup] at raw
      cases raw
    | element _ tag writable _ inside later =>
      -- A comment has no elements, so that what is around the place stays the same.
      refine .element markup tag writable (fun void => absurd void visible) ?_ later
      rw [within.hasName_eq]
      exact ih inside

end Forest.Inserts

/-- A comment that is harmless to the elements around it changes nothing in the sequence of names and
attributes, which are those of the forest. -/
theorem extractDeep_comment {forest longer : Forest} {content : Text} {around : List Enclosing}
    (quiet : forest.oneLine.Quiet [])
    (inserts : forest.Inserts (comment content) around [] longer)
    (closed : ¬ ['-', '-', '>'] <:+: withoutLineFeeds content)
    (harmless : Harmless around (withoutLineFeeds content) ['-', '-', '>']) :
    (extractDeep longer.render).map Element.tag = (extractDeep forest.render).map Element.tag ∧
      (extractDeep forest.render).map Element.tag = forest.oneLine.tags := by
  have here := tags_extractDeep quiet
  have flat := inserts.oneLine
  rw [withoutLineFeeds_comment] at flat
  have longerQuiet := flat.quiet quiet closed (notMem_withoutLineFeeds content) harmless
  exact ⟨by rw [tags_extractDeep longerQuiet, here, flat.tags_eq], here⟩

/-- A commented out element after a paragraph with a line feed in it. -/
theorem extractDeep_comment_element :
    let paragraph (rest : Forest) : Forest :=
      .element "p".toList [] (.text "a\n".toList .nil) rest
    let forest : Forest := .element "div".toList [] (paragraph .nil) .nil
    let longer : Forest :=
      .element "div".toList [] (paragraph (.text (comment "<i>b</i>".toList) .nil)) .nil
    longer.render = "<div><p>a\n</p><!--<i>b</i>--></div>".toList ∧
      (extractDeep longer.render).map Element.tag = (extractDeep forest.render).map Element.tag ∧
      (extractDeep forest.render).map Element.tag = forest.oneLine.tags := by
  intro paragraph forest longer
  have quiet : forest.oneLine.Quiet [] :=
    .element (by decide) (by decide) nofun (absurd · (by decide))
      (.element (by decide) (by decide) nofun (absurd · (by decide))
        (.text (by decide) (by decide) .nil) .nil) .nil
  have inserts : forest.Inserts (comment "<i>b</i>".toList) [⟨"div".toList, false⟩] [] longer :=
    .inside (by decide) (by decide) (.element .here)
  have written : (Forest.element "i".toList [] (.text "b".toList .nil) .nil).Quiet
      [⟨"div".toList, false⟩] :=
    .element (by decide) (by decide) nofun (absurd · (by decide))
      (.text (by decide) (by decide) .nil) .nil
  have harmless : Harmless [⟨"div".toList, false⟩] (withoutLineFeeds "<i>b</i>".toList)
      ['-', '-', '>'] := by
    refine written.harmless_render _ ?_ ?_ ?_
    all_goals
      intro outer member
      obtain rfl := List.mem_singleton.mp member
      decide
  exact ⟨by decide, extractDeep_comment quiet inserts (by decide) harmless⟩

/-- Beside the inner one of two elements the tag in a comment is reported. -/
theorem extractDeep_comment_tag :
    let inner (rest : Forest) : Forest := .element "div".toList [] .nil rest
    let forest : Forest := .element "div".toList [] (inner .nil) .nil
    let longer : Forest := .element "div".toList [] (inner (.text (comment "<b>".toList) .nil)) .nil
    longer.render = "<div><div></div><!--<b>--></div>".toList ∧ forest.WellFormed ∧
      forest.Inserts (comment "<b>".toList) [⟨"div".toList, true⟩] [] longer ∧
      ¬ ['-', '-', '>'] <:+: "<b>".toList ∧
      (extractDeep forest.render).map Element.name = ["div".toList, "div".toList] ∧
      (extractDeep longer.render).map Element.name = ["div".toList, "div".toList, "b".toList] := by
  intro inner forest longer
  have void : Category.ofName "div".toList ≠ .void := by decide
  have formed : forest.WellFormed :=
    .element (by decide) (by decide) nofun (absurd · void) (by decide)
      (.element (by decide) (by decide) nofun (absurd · void) (by decide) .nil .nil) .nil
  refine ⟨by decide, formed, .inside (by decide) (by decide) (.element .here), by decide, ?_, ?_⟩
  · rw [extractDeep_eq_flatMap]
    decide +kernel
  · rw [extractDeep_eq_flatMap]
    decide +kernel

/-! ## Raw bodies -/

/-- The forests differ at most in the texts inside raw elements. -/
inductive Forest.SameButRaw : Forest → Forest → Prop
  | nil : SameButRaw .nil .nil
  | text {run : Text} {rest other : Forest} (later : SameButRaw rest other) :
      SameButRaw (.text run rest) (.text run other)
  | raw {name : Text} {attributes : List Attribute} {first second rest other : Forest}
      (raw : isRawText name = true) (plain : first.isText = true) (replaced : second.isText = true)
      (later : SameButRaw rest other) :
      SameButRaw (.element name attributes first rest) (.element name attributes second other)
  | element {name : Text} {attributes : List Attribute} {first second rest other : Forest}
      (inside : SameButRaw first second) (later : SameButRaw rest other) :
      SameButRaw (.element name attributes first rest) (.element name attributes second other)

namespace Forest.SameButRaw
variable {first second : Forest}

theorem tags_eq (same : first.SameButRaw second) : second.tags = first.tags := by
  induction same with
  | nil => rfl
  | text _ ih => exact ih
  | raw _ plain replaced _ ih =>
    rw [tags, tags, tags_of_isText plain, tags_of_isText replaced, ih]
  | element _ _ insideIh laterIh => rw [tags, tags, insideIh, laterIh]

theorem oneLine (same : first.SameButRaw second) : first.oneLine.SameButRaw second.oneLine := by
  induction same with
  | nil => exact .nil
  | text _ ih => exact .text ih
  | raw raw plain replaced _ ih => exact .raw raw (by simpa using plain) (by simpa using replaced) ih
  | element _ _ insideIh laterIh => exact .element insideIh laterIh

end Forest.SameButRaw

/-- Bodies of raw elements that are harmless to the elements around them change nothing in the
sequence of names and attributes, and nothing in it is from inside such a body. -/
theorem extractDeep_raw {first second : Forest} (same : first.SameButRaw second)
    (quiet : first.oneLine.Quiet []) (replaced : second.oneLine.Quiet []) :
    (extractDeep second.render).map Element.tag = (extractDeep first.render).map Element.tag ∧
      (extractDeep first.render).map Element.tag = first.oneLine.tags := by
  have here := tags_extractDeep quiet
  exact ⟨by rw [tags_extractDeep replaced, here, same.oneLine.tags_eq], here⟩

/-- A tag in a script. -/
theorem extractDeep_raw_tag :
    let script (body : Text) : Forest :=
      .element "div".toList [] (.element "script".toList [] (.text body .nil) .nil) .nil
    (script "a<b\n<i>".toList).render = "<div><script>a<b\n<i></script></div>".toList ∧
      (extractDeep (script "a<b\n<i>".toList).render).map Element.tag =
        (extractDeep (script []).render).map Element.tag ∧
      (extractDeep (script []).render).map Element.tag = (script []).oneLine.tags := by
  intro script
  have quiet (body : Text) (unclosed : ¬ ['<', '/'] <:+: withoutLineFeeds body)
      (unopened : countOpeners "div".toList (withoutLineFeeds body) = 0 ∧
        countOpeners "script".toList (withoutLineFeeds body) = 0) : (script body).oneLine.Quiet [] := by
    have harmless : Harmless [⟨"script".toList, false⟩, ⟨"div".toList, false⟩]
        (withoutLineFeeds body ++ []) (closer "script".toList) := by
      rw [List.append_nil]
      refine harmless_of_unclosed unclosed (fun outer member _ => ?_) (by simp [Enclosing.refined])
      rcases List.mem_pair.mp member with rfl | rfl
      · exact unopened.2
      · exact unopened.1
    refine .element (by decide) (by decide) (by simp) (absurd · (by decide))
      (.raw (by decide) (by decide) (by simp) rfl ?_ harmless .nil) .nil
    simp [Forest.render, Forest.oneLine, notMem_withoutLineFeeds]
  have same : (script []).SameButRaw (script "a<b\n<i>".toList) :=
    .element (.raw (by decide) rfl rfl .nil) .nil
  exact ⟨by decide, extractDeep_raw same (quiet _ (by decide) (by decide))
    (quiet _ (by decide) (by decide))⟩

/-- Beside the inner one of two elements the tag in a script is reported. -/
theorem extractDeep_raw_beside :
    let script (body : Text) : Forest := .element "div".toList [] (.element "div".toList [] .nil
      (.element "script".toList [] (.text body .nil) .nil)) .nil
    (script "<b>".toList).render = "<div><div></div><script><b></script></div>".toList ∧
      (script []).WellFormed ∧ (script []).SameButRaw (script "<b>".toList) ∧
      ¬ ['<', '/'] <:+: "<b>".toList ∧
      (extractDeep (script []).render).map Element.name =
        ["div".toList, "div".toList, "script".toList] ∧
      (extractDeep (script "<b>".toList).render).map Element.name =
        ["div".toList, "div".toList, "script".toList, "b".toList] := by
  intro script
  have void : Category.ofName "div".toList ≠ .void := by decide
  have formed : (script []).WellFormed :=
    .element (by decide) (by decide) nofun (absurd · void) (by decide)
      (.element (by decide) (by decide) nofun (absurd · void) (by decide) .nil
        (.element (by decide) (by decide) nofun (absurd · (by decide)) (fun _ => rfl)
          (.text nofun nofun .nil) .nil)) .nil
  have same : (script []).SameButRaw (script "<b>".toList) :=
    .element (.element .nil (.raw (by decide) rfl rfl .nil)) .nil
  refine ⟨by decide, formed, same, by decide, ?_, ?_⟩
  · rw [extractDeep_eq_flatMap]
    decide +kernel
  · rw [extractDeep_eq_flatMap]
    decide +kernel

end Markup

end TagQuery
