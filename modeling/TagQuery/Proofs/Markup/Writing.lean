import TagQuery.Proofs.Markup.Transparency

/-!
# Writings of a forest

A forest can be written in many ways: any amount and any kind of white space separates the name of a
tag and its attributes (`Spells`). `Forest.WrittenAs` says which documents are writings of a forest.
The rendering of a well-formed forest is one of them (`Forest.WellFormed.writtenAs`).

Line feeds are removed before a document is read, so the name of a tag has to end without them as
well (`IsTag.ends`): behind `<a` a line feed alone does not keep the name apart from `b="1"`. What is
left of such a tag reads as its name and its attributes, whatever the white space was
(`IsTag.plainTag`).
-/

namespace TagQuery.Markup

/-- A name and an area that may stand in a tag. Without the line feeds, too, the name has to end where
the area starts. -/
structure IsTag (name : Text) (attributes : List Attribute) (area : Text) : Prop
    extends IsTagName name where
  spells : Spells attributes area
  ends : ∀ c ∈ (withoutLineFeeds area).head?, Text.isWord c = false

/-- The documents that are writings of a forest. Void elements have no closer. In the elements whose
body is not markup there may be any text. -/
inductive Forest.WrittenAs : Forest → Text → Prop
  | nil : WrittenAs .nil []
  | text {run after : Text} {rest : Forest} (unopened : '<' ∉ run) (later : WrittenAs rest after) :
      WrittenAs (.text run rest) (run ++ after)
  | void {name area after : Text} {attributes : List Attribute} {rest : Forest}
      (tag : IsTag name attributes area) (void : Category.ofName name = .void)
      (later : WrittenAs rest after) :
      WrittenAs (.element name attributes .nil rest) (openingTag name area ++ after)
  | raw {name area after : Text} {attributes : List Attribute} {children rest : Forest}
      (tag : IsTag name attributes area) (raw : isRawText name = true)
      (plain : children.isText = true) (later : WrittenAs rest after) :
      WrittenAs (.element name attributes children rest)
        (openingTag name area ++ (children.render ++ (closer name ++ after)))
  | element {name area within after : Text} {attributes : List Attribute} {children rest : Forest}
      (tag : IsTag name attributes area) (visible : Category.ofName name ≠ .void)
      (markup : isRawText name = false) (inside : WrittenAs children within)
      (later : WrittenAs rest after) :
      WrittenAs (.element name attributes children rest)
        (openingTag name area ++ (within ++ (closer name ++ after)))

/-- The rendering of a well-formed forest is one of its writings. -/
theorem Forest.WellFormed.writtenAs {forest : Forest} (formed : forest.WellFormed) :
    forest.WrittenAs forest.render := by
  induction formed with
  | nil => exact .nil
  | text unopened _ _ ih => exact .text unopened ih
  | @element name attributes children _ word _ writable empty plain _ _ insideIh laterIh =>
    have ends : ∀ c ∈ (withoutLineFeeds (writeAttributes attributes)).head?,
        Text.isWord c = false := by
      cases attributes with
      | nil => exact nofun
      | cons entry rest => exact Text.stop_of_cons (by decide) _
    have tag : IsTag name attributes (writeAttributes attributes) :=
      ⟨word, spells_writeAttributes writable, ends⟩
    rw [render, List.append_assoc]
    split
    · rename_i void
      rw [empty void]
      exact .void tag void laterIh
    · rename_i visible
      rw [List.append_assoc]
      cases raw : isRawText name with
      | true => exact .raw tag raw (plain raw) laterIh
      | false => exact .element tag visible raw insideIh laterIh

/-! ## Areas -/

theorem IsQuotable.withoutLineFeeds {entry : Attribute} (quotable : IsQuotable entry) :
    IsQuotable ⟨entry.name, Markup.withoutLineFeeds entry.value⟩ where
  nonempty := quotable.nonempty
  named := quotable.named
  unquoted present := quotable.unquoted (List.mem_filter.mp present).1
  unopened present := quotable.unopened (List.mem_filter.mp present).1
  unclosed present := quotable.unclosed (List.mem_filter.mp present).1

namespace Spells
variable {attributes : List Attribute} {area : Text}

/-- Without the line feeds an area spells the attributes without theirs. -/
theorem withoutLineFeeds (spells : Spells attributes area) :
    Spells (attributes.map fun entry => ⟨entry.name, Markup.withoutLineFeeds entry.value⟩)
      (Markup.withoutLineFeeds area) := by
  induction spells with
  | nil blank => exact .nil fun c member => blank c (List.mem_filter.mp member).1
  | @cons gap area entry rest blank quotable _ ih =>
    have named : Markup.withoutLineFeeds entry.name = entry.name :=
      withoutLineFeeds_eq fun present => absurd (quotable.named _ present) (by decide)
    have split : Markup.withoutLineFeeds
        (gap ++ (entry.name ++ '=' :: '"' :: (entry.value ++ '"' :: area))) =
        Markup.withoutLineFeeds gap ++ (Markup.withoutLineFeeds entry.name ++
          '=' :: '"' :: (Markup.withoutLineFeeds entry.value ++
            '"' :: Markup.withoutLineFeeds area)) := by
      simp [Markup.withoutLineFeeds]
    rw [split, named]
    exact .cons (fun c member => blank c (List.mem_filter.mp member).1) quotable.withoutLineFeeds ih

end Spells

/-- A name and an area without line feeds that read as a tag with the attributes, and at whose end
there is no part of another mark. -/
structure PlainTag (name area : Text) (attributes : Attributes) : Prop extends IsOpening name area where
  unopened : '<' ∉ area
  means : attributesOf name area = attributes
  last : ∀ c ∈ area.getLast?, c ≠ '/' ∧ c ≠ '-'

/-- Without its line feeds a tag reads as it is meant. -/
theorem IsTag.plainTag {name area : Text} {attributes : List Attribute}
    (tag : IsTag name attributes area) :
    PlainTag name (withoutLineFeeds area) (Attributes.ofList (attributes.map fun entry =>
      trimValue ⟨entry.name, withoutLineFeeds entry.value⟩)) := by
  have spells := tag.spells.withoutLineFeeds
  refine ⟨⟨tag.toIsTagName, tag.ends, ?_⟩, ?_, ?_, fun c member => ?_⟩
  · exact spells.notMem (by decide) (by decide) (by decide) fun _ quotable => quotable.unclosed
  · exact spells.notMem (by decide) (by decide) (by decide) fun _ quotable => quotable.unopened
  · rw [spells.attributesOf_eq, List.map_map]
    rfl
  · rcases spells.last c member with space | rfl
    · rcases Text.isSpace_cases space with rfl | rfl | rfl | rfl | rfl <;> decide
    · decide

theorem PlainTag.closesItself_eq {name area : Text} {attributes : Attributes}
    (plain : PlainTag name area attributes) : closesItself area = false := by
  rw [← Bool.not_eq_true, closesItself_iff]
  rintro (only | ⟨front, c, _, whole⟩)
  · exact (plain.last '/' (by rw [only]; rfl)).1 rfl
  · exact (plain.last '/' (by simp [whole])).1 rfl

end TagQuery.Markup
