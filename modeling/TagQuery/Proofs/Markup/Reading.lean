import TagQuery.Markup.Element
import TagQuery.Proofs.Markup.Opening

/-!
# Reading elements off slices

What a text that starts with an opening tag says as an element: the name and the area of the tag
give the name and the attributes, and what stands before the last `</` gives the inner text
(`ofSlice?_openingTag`). A tag by itself is empty. In a slice that a closer ends whose openers
balance, the inner text is exactly the body: no closer has to be added
(`ofSlice?_of_balances`).
-/

namespace TagQuery.Markup

theorem beforeLast?_of_notMem {pattern text : Text} (absent : '<' ∉ text) :
    Text.beforeLast? ('<' :: pattern) text = none := by
  induction text with
  | nil => rfl
  | cons c text ih =>
    obtain ⟨other, later⟩ := not_or.mp (mt List.mem_cons.mpr absent)
    have elsewhere : Text.startsWith ('<' :: pattern) (c :: text) = false := by
      simp [Text.startsWith, Text.strip?, other]
    rw [Text.beforeLast?, ih later, elsewhere]
    rfl

theorem closeUnmatched_of_le {name text : Text}
    (enough : countOpeners name text ≤ countClosers name text) :
    closeUnmatched name text = text := by
  rw [closeUnmatched, Nat.sub_eq_zero_of_le enough]
  exact List.append_nil text

/-- Whatever stands before a closer stands before the last `</`. -/
theorem beforeLast?_closer {name spelling : Text} (tag : IsTagName name)
    (same : Text.sameName name spelling = true) (body : Text) :
    Text.beforeLast? ['<', '/'] (body ++ closer spelling) = some body := by
  apply Text.beforeLast?_append
  rw [closer, Text.beforeLast?, beforeLast?_of_notMem (notMem_tail_closer tag same)]
  rfl

theorem beforeLast?_of_balances {name body closing : Text} (tag : IsTagName name)
    (balances : Balances name body closing) :
    Text.beforeLast? ['<', '/'] (body ++ closing) = some body := by
  obtain ⟨spelling, same, rfl⟩ := balances.closes
  exact beforeLast?_closer tag same body

/-- The attributes that are written in the opening tag of a name. -/
def attributesOf (name area : Text) : Attributes :=
  Attributes.ofTag (Category.ofName name == .void) area

namespace IsOpening
variable {name area : Text} (opening : IsOpening name area)

include opening

/-- An opening tag, with whatever follows it, is read as an element of its name. -/
theorem ofSlice?_openingTag (inside : Text) :
    Element.ofSlice? (openingTag name area ++ inside) =
      some ⟨name, attributesOf name area,
        closeUnmatched name ((Text.beforeLast? ['<', '/'] inside).getD [])⟩ := by
  have whole : openingTag name area ++ inside = '<' :: (name ++ (area ++ '>' :: inside)) := by
    simp [openingTag]
  have named : (name ++ (area ++ '>' :: inside)).takeWhile Text.isWord = name :=
    Text.takeWhile_run opening.word (opening.ends_before inside)
  have plain := Text.all_bne_of_notMem opening.plain
  have stop : ∀ c ∈ ('>' :: inside).head?, (c != '>') = false := by simp
  have nonempty : name.isEmpty = false := by simpa using opening.nonempty
  simp only [Element.ofSlice?, whole, List.dropWhile_cons, bne_self_eq_false, Bool.false_eq_true,
    ↓reduceIte, List.drop_succ_cons, List.drop_zero, named, nonempty, List.drop_left,
    Text.takeWhile_run plain stop, Text.dropWhile_run plain stop, attributesOf]

/-- A tag by itself is an element without inner text. -/
theorem ofSlice?_tag :
    Element.ofSlice? (openingTag name area) = some ⟨name, attributesOf name area, []⟩ := by
  have read := opening.ofSlice?_openingTag []
  rwa [List.append_nil] at read

/-- The inner text of an element up to its closer is its body. -/
theorem ofSlice?_of_balances {body closing : Text} (balances : Balances name body closing) :
    Element.ofSlice? (openingTag name area ++ body ++ closing) =
      some ⟨name, attributesOf name area, body⟩ := by
  have even := ((balances_iff opening.toIsTagName).mp balances).2
  rw [List.append_assoc, opening.ofSlice?_openingTag,
    beforeLast?_of_balances opening.toIsTagName balances, Option.getD_some,
    closeUnmatched_of_le even.ge]

end IsOpening

end TagQuery.Markup
