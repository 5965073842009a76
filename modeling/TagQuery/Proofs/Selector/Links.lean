import TagQuery.Proofs.Selector.Readers

/-!
# Reading links

A link is read as its tag and then its qualifiers, one after the other. What is accepted is the
text of a link of the grammar, unless it is blank (`readLink_sound`), and a link of the grammar in
which only quoted values contain quotation marks is read as what it asks for
(`readLink_complete`). Reading keeps the last `id` and the last condition by adding one qualifier
after the other, which `linkOf_qualifiers` compares with the meaning that the grammar gives.
-/

namespace TagQuery.Selector.Grammar

theorem exists_of_map_eq_ok {ε α β : Type} {f : α → β} {result : Except ε α} {value : β}
    (mapped : result.map f = .ok value) : ∃ inner, result = .ok inner ∧ f inner = value := by
  cases result with
  | error fault => cases mapped
  | ok inner => exact ⟨inner, rfl, Except.ok.inj mapped⟩

theorem exists_of_bind_eq_ok {ε α β : Type} {f : α → Except ε β} {result : Except ε α} {value : β}
    (bound : result >>= f = .ok value) : ∃ inner, result = .ok inner ∧ f inner = .ok value := by
  cases result with
  | error fault => cases bound
  | ok inner => exact ⟨inner, rfl, bound⟩

/-! ## Qualifiers -/

theorem readQualifier_sound {c : Char} {text rest : Text} {qualifier : Qualifier}
    (read : readQualifier c text = .ok (qualifier, rest)) :
    ∃ part : Part, qualifier = part.qualifier ∧ c :: text = part.text ++ rest := by
  unfold readQualifier at read
  split at read
  · rename_i mark
    obtain ⟨⟨name, after⟩, found, same⟩ := exists_of_map_eq_ok read
    cases same
    obtain ⟨space, word, rfl, rfl⟩ := readIdentifier_sound found
    exact ⟨.identifier space word, rfl, by simp [mark, Part.text]⟩
  · split at read
    · rename_i mark
      obtain ⟨⟨name, after⟩, found, same⟩ := exists_of_map_eq_ok read
      cases same
      obtain ⟨space, word, rfl, rfl⟩ := readIdentifier_sound found
      exact ⟨.className space word, rfl, by simp [mark, Part.text]⟩
    · split at read
      · rename_i mark
        obtain ⟨⟨condition, after⟩, found, same⟩ := exists_of_map_eq_ok read
        cases same
        obtain ⟨inside, rfl, rfl⟩ := readCondition_sound found
        exact ⟨.bracket inside, rfl, by simp [mark, Part.text]⟩
      · cases read

theorem readQualifier_complete {part : Part} (plain : part.Plain) {rest : Text}
    (stop : ∀ c ∈ rest.head?, isIdentChar c = false) :
    ∃ c text, part.text ++ rest = c :: text ∧ (c = '#' ∨ c = '.' ∨ c = '[') ∧
      readQualifier c text = .ok (part.qualifier, rest) := by
  cases part with
  | identifier space word =>
    have read := readIdentifier_complete '#' space word stop
    refine ⟨'#', space.text ++ (word.text ++ rest), by simp [Part.text], .inl rfl, ?_⟩
    rw [readQualifier, if_pos rfl, read]
    rfl
  | className space word =>
    have read := readIdentifier_complete '.' space word stop
    refine ⟨'.', space.text ++ (word.text ++ rest), by simp [Part.text], .inr (.inl rfl), ?_⟩
    rw [readQualifier, if_neg (by decide), if_pos rfl, read]
    rfl
  | bracket inside =>
    have read := readCondition_complete plain rest
    refine ⟨'[', inside.text ++ rest, rfl, .inr (.inr rfl), ?_⟩
    rw [readQualifier, if_neg (by decide), if_neg (by decide), if_pos rfl, read]
    rfl

theorem isSpace_of_mark {c : Char} (mark : c = '#' ∨ c = '.' ∨ c = '[') :
    Text.isSpace c = false := by
  rcases mark with rfl | rfl | rfl <;> decide

/-- What reading the qualifiers of a text does next. -/
theorem readQualifiers_eq (text : Text) :
    readQualifiers text =
      match Text.skipSpace text with
      | [] => .ok []
      | c :: rest =>
        match readQualifier c rest with
        | .error fault => .error fault
        | .ok (qualifier, after) => (readQualifiers after).map (qualifier :: ·) := by
  rw [readQualifiers]
  split
  · rename_i skipped
    rw [skipped]
  · rename_i skipped
    rw [skipped]
    split <;> rename_i read <;> simp only [read]

theorem readQualifiers_skipSpace (text : Text) :
    readQualifiers (Text.skipSpace text) = readQualifiers text := by
  obtain ⟨_, _, stop⟩ := exists_space text
  have again : Text.skipSpace (Text.skipSpace text) = Text.skipSpace text :=
    Space.skip ⟨[], nofun⟩ _ stop
  rw [readQualifiers_eq, readQualifiers_eq text, again]

theorem readQualifiers_sound {text : Text} {qualifiers : List Qualifier}
    (read : readQualifiers text = .ok qualifiers) :
    ∃ (parts : List (Space × Part)) (after : Space),
      qualifiers = parts.map (fun (_, part) => part.qualifier) ∧
        text = partsText parts ++ after.text := by
  fun_induction readQualifiers text generalizing qualifiers with
  | case1 text skipped =>
    cases read
    obtain ⟨space, whole, _⟩ := exists_space text
    rw [skipped, List.append_nil] at whole
    exact ⟨[], space, rfl, whole⟩
  | case2 => cases read
  | case3 text c rest skipped qualifier after found ih =>
    obtain ⟨later, more, rfl⟩ := exists_of_map_eq_ok read
    obtain ⟨parts, last, rfl, rfl⟩ := ih more
    obtain ⟨space, whole, _⟩ := exists_space text
    obtain ⟨part, rfl, split⟩ := readQualifier_sound found
    refine ⟨(space, part) :: parts, last, rfl, ?_⟩
    rw [whole, skipped, split]
    simp [partsText]

/-- No identifier goes on into white space or a qualifier. -/
theorem partsText_head (parts : List (Space × Part)) {rest : Text}
    (stop : ∀ c ∈ rest.head?, isIdentChar c = false) :
    ∀ c ∈ (partsText parts ++ rest).head?, isIdentChar c = false := by
  cases parts with
  | nil => exact stop
  | cons first later =>
    obtain ⟨space, part⟩ := first
    have mark : ∀ c ∈ (part.text ++ (partsText later ++ rest)).head?, isIdentChar c = false := by
      cases part <;> exact Text.stop_of_cons (by decide) _
    have whole := space.head_append (fun _ => isIdentChar_of_isSpace) mark
    simpa [partsText] using whole

/-- Qualifiers start with a mark. -/
theorem partsText_mark {parts : List (Space × Part)} {rest : Text}
    (marked : parts = [] →
      ∃ c after, Text.skipSpace rest = c :: after ∧ (c = '#' ∨ c = '.' ∨ c = '[')) :
    ∃ c after, Text.skipSpace (partsText parts ++ rest) = c :: after ∧
      (c = '#' ∨ c = '.' ∨ c = '[') := by
  cases parts with
  | nil => exact marked rfl
  | cons first later =>
    obtain ⟨space, part⟩ := first
    obtain ⟨c, more, starts, mark⟩ : ∃ c more, part.text = c :: more ∧
        (c = '#' ∨ c = '.' ∨ c = '[') := by
      cases part with
      | identifier => exact ⟨_, _, rfl, .inl rfl⟩
      | className => exact ⟨_, _, rfl, .inr (.inl rfl)⟩
      | bracket => exact ⟨_, _, rfl, .inr (.inr rfl)⟩
    have outside := Text.stop_of_cons (isSpace_of_mark mark) (more ++ (partsText later ++ rest))
    refine ⟨c, more ++ (partsText later ++ rest), ?_, mark⟩
    rw [← space.skip _ outside]
    simp [partsText, starts]

theorem Space.stop (space : Space) : ∀ c ∈ space.text.head?, isIdentChar c = false :=
  fun c first => isIdentChar_of_isSpace (space.blank c (List.mem_of_mem_head? first))

/-- Qualifiers are read one after the other, whatever follows them. -/
theorem readQualifiers_parts {parts : List (Space × Part)} (plain : ∀ part ∈ parts, part.2.Plain)
    {rest : Text} (stop : ∀ c ∈ rest.head?, isIdentChar c = false) :
    readQualifiers (partsText parts ++ rest) =
      (readQualifiers rest).map ((parts.map fun (_, part) => part.qualifier) ++ ·) := by
  induction parts with
  | nil =>
    rw [partsText, List.flatMap_nil, List.nil_append]
    cases readQualifiers rest <;> rfl
  | cons first later ih =>
    obtain ⟨space, part⟩ := first
    obtain ⟨here, there⟩ := List.forall_mem_cons.mp plain
    obtain ⟨c, text, starts, mark, read⟩ :=
      readQualifier_complete here (partsText_head later stop)
    have outside := Text.stop_of_cons (isSpace_of_mark mark) text
    have whole : partsText ((space, part) :: later) ++ rest = space.text ++ c :: text := by
      rw [← starts]
      simp [partsText]
    rw [whole, readQualifiers_eq, space.skip _ outside]
    simp only [read, ih there]
    cases readQualifiers rest <;> rfl

theorem readQualifiers_complete {parts : List (Space × Part)}
    (plain : ∀ part ∈ parts, part.2.Plain) (after : Space) :
    readQualifiers (partsText parts ++ after.text) =
      .ok (parts.map fun (_, part) => part.qualifier) := by
  have skip := after.skip [] nofun
  rw [List.append_nil] at skip
  have ends : readQualifiers after.text = .ok [] := by
    rw [readQualifiers_eq, skip]
  rw [readQualifiers_parts plain after.stop, ends]
  exact congrArg Except.ok (List.append_nil _)

theorem foldl_addTo (qualifiers : List Qualifier) (link : Link) :
    qualifiers.foldl Qualifier.addTo link =
      ⟨link.tag, (qualifiers.filterMap Qualifier.identifier?).getLast?.or link.id,
        (qualifiers.filterMap Qualifier.className?).foldl NameSet.insert link.classes,
        (qualifiers.filterMap Qualifier.condition?).getLast?.or link.condition⟩ := by
  induction qualifiers generalizing link with
  | nil => rfl
  | cons qualifier rest ih =>
    rw [List.foldl_cons, ih]
    cases qualifier <;>
      simp [Qualifier.addTo, Qualifier.identifier?, Qualifier.className?, Qualifier.condition?,
        List.filterMap_cons, List.getLast?_cons]

theorem linkOf_qualifiers (link : WrittenLink) :
    linkOf link.start.tag? link.qualifiers = link.link := by
  rw [linkOf, foldl_addTo]
  simp only [Link.any, Option.or_none]
  rfl

/-! ## Links -/

theorem isIdentChar_of_isAlpha {c : Char} (alpha : c.isAlpha = true) : isIdentChar c = true := by
  simp [isIdentChar, Char.isAlphanum, alpha]

theorem readTag_sound {text rest : Text} {tag : Option Text}
    (read : readTag text = .ok (tag, rest)) :
    ∃ (before : Space) (start : Start), tag = start.tag? ∧
      text = before.text ++ (start.text ++ rest) := by
  obtain ⟨before, whole, _⟩ := exists_space text
  unfold readTag at read
  split at read
  · rename_i skipped
    cases read
    exact ⟨before, .omitted, rfl, by rw [skipped] at whole; exact whole⟩
  · rename_i skipped
    cases read
    exact ⟨before, .star, rfl, by rw [skipped] at whole; exact whole⟩
  · rename_i c tail _ skipped
    split at read
    · rename_i alpha
      cases read
      have ident := isIdentChar_of_isAlpha alpha
      have first : (c :: tail).takeWhile isIdentChar = c :: tail.takeWhile isIdentChar := by
        rw [List.takeWhile_cons, if_pos ident]
      have nonempty : ((c :: tail).takeWhile isIdentChar).isEmpty = false := by rw [first]; rfl
      obtain ⟨word, same, split⟩ := exists_word nonempty
      have letter : ∀ d ∈ word.text.head?, d.isAlpha = true := by
        rw [same, first]
        exact fun d head => Option.some.inj head ▸ alpha
      refine ⟨before, .tag ⟨word, letter⟩, congrArg some same.symm, ?_⟩
      rw [whole, skipped]
      exact congrArg (before.text ++ ·) split
    · split at read
      · cases read
        exact ⟨before, .omitted, rfl, by rw [skipped] at whole; exact whole⟩
      · cases read

theorem readTag_of_mark {c : Char} {text rest : Text} (mark : c = '#' ∨ c = '.' ∨ c = '[')
    (skipped : Text.skipSpace text = c :: rest) : readTag text = .ok (none, c :: rest) := by
  rw [readTag, skipped]
  rcases mark with rfl | rfl | rfl <;> rfl

theorem readTag_star (before : Space) (rest : Text) :
    readTag (before.text ++ '*' :: rest) = .ok (none, rest) := by
  have stop : ∀ c ∈ ('*' :: rest).head?, Text.isSpace c = false :=
    Text.stop_of_cons (by decide) rest
  rw [readTag, before.skip _ stop]
  rfl

theorem readTag_of_alpha {c : Char} {text rest : Text} (alpha : c.isAlpha = true)
    (skipped : Text.skipSpace text = c :: rest) :
    readTag text =
      .ok (some ((c :: rest).takeWhile isIdentChar), (c :: rest).dropWhile isIdentChar) := by
  rw [readTag, skipped]
  split
  · rename_i same
    cases same
  · rename_i same
    rw [(List.cons.inj same).1] at alpha
    exact absurd alpha (by decide)
  · rename_i same
    obtain ⟨rfl, rfl⟩ := List.cons.inj same
    rw [if_pos alpha]

theorem readTag_name (before : Space) (name : TagName) {rest : Text}
    (stop : ∀ c ∈ rest.head?, isIdentChar c = false) :
    readTag (before.text ++ (name.text ++ rest)) = .ok (some name.text, rest) := by
  have skip := before.skip _ (name.head_append rest fun _ => isIdentChar_of_isSpace)
  have run := name.takeWhile stop
  have left := name.dropWhile stop
  obtain ⟨c, more, whole⟩ := List.exists_cons_of_ne_nil name.nonempty
  have alpha : c.isAlpha = true := name.letter c (by rw [whole]; rfl)
  rw [whole, List.cons_append] at skip run left ⊢
  rw [readTag_of_alpha alpha skip, run, left]

/-- A link that is read and not blank is the text of a link of the grammar. -/
theorem readLink_sound {text : Text} {link : Link} (read : readLink text = .ok link)
    (inhabited : Text.allBlank text = false) :
    ∃ written : WrittenLink, written.text = text ∧ written.link = link := by
  obtain ⟨⟨tag, rest⟩, readStart, later⟩ := exists_of_bind_eq_ok read
  obtain ⟨qualifiers, readParts, same⟩ := exists_of_bind_eq_ok later
  obtain rfl := Except.ok.inj same
  obtain ⟨before, start, rfl, rfl⟩ := readTag_sound readStart
  obtain ⟨parts, after, rfl, rfl⟩ := readQualifiers_sound readParts
  have filled : start = .omitted → parts ≠ [] := by
    rintro rfl rfl
    have blank : Text.allBlank (before.text ++ after.text) = true := by
      simp only [Text.allBlank, List.all_append, Bool.and_eq_true, List.all_eq_true]
      exact ⟨before.isBlank, after.isBlank⟩
    exact absurd (inhabited.symm.trans blank) (by decide)
  exact ⟨⟨before, start, parts, after, filled⟩, rfl, (linkOf_qualifiers _).symm⟩

/-- A link is read as what it starts with and its qualifiers, whatever these are. -/
theorem readLink_start (before : Space) {start : Start} {body : Text}
    (stop : ∀ c ∈ body.head?, isIdentChar c = false)
    (marked : start = .omitted →
      ∃ c rest, Text.skipSpace body = c :: rest ∧ (c = '#' ∨ c = '.' ∨ c = '[')) :
    readLink (before.text ++ (start.text ++ body)) =
      (readQualifiers body).map (linkOf start.tag?) := by
  have step {rest : Text} (tag : readTag (before.text ++ (start.text ++ body)) =
      .ok (start.tag?, rest)) (parted : readQualifiers rest = readQualifiers body) :
      readLink (before.text ++ (start.text ++ body)) =
        (readQualifiers body).map (linkOf start.tag?) := by
    rw [readLink, tag]
    change readQualifiers rest >>= _ = _
    rw [parted]
    cases readQualifiers body <;> rfl
  cases start with
  | star => exact step (readTag_star before body) rfl
  | tag name => exact step (readTag_name before name stop) rfl
  | omitted =>
    obtain ⟨c, rest, skipped, mark⟩ := marked rfl
    apply step (readTag_of_mark mark ((before.skipSpace_append body).trans skipped))
    rw [← skipped, readQualifiers_skipSpace]

/-- A link of the grammar is read as what it asks for. -/
theorem readLink_complete {link : WrittenLink} (plain : link.Plain) :
    readLink link.text = .ok link.link := by
  obtain ⟨before, start, parts, after, inhabited⟩ := link
  have readParts := readQualifiers_complete plain after
  have marked (omitted : start = .omitted) : ∃ c rest,
      Text.skipSpace (partsText parts ++ after.text) = c :: rest ∧ (c = '#' ∨ c = '.' ∨ c = '[') :=
    partsText_mark fun empty => absurd empty (inhabited omitted)
  rw [WrittenLink.text, readLink_start before (partsText_head parts after.stop) marked, readParts,
    ← linkOf_qualifiers]
  rfl

end TagQuery.Selector.Grammar
