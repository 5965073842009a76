import TagQuery.Proofs.Markup.AttributeReading
import TagQuery.Proofs.Selector.Rendering
import TagQuery.Query

/-!
# Which selectors are read back

A selector is read back from its written form if nothing in its expected texts is escaped, since
the parser knows of no escapes. The other way round a written text with a quotation mark in it has
to be followed further: the value ends at the first of these marks, behind its backslash, and what
is left over is read as qualifiers. The last of them is a condition again, but never on the text
that was meant (`readLink_renderWith_ne_of_marked`).

A query with the written form of a selector asks for the texts that are written there
(`query_render`), which are the expected ones only if they have no escapes. A single link with an
escape is never asked for again, also where a quotation mark is among the escapes.
-/

namespace TagQuery

open Selector Grammar

namespace Selector

/-! ## Quotation marks among what is written -/

theorem readLink_of_parse_last {source : Text} {link : Link}
    (read : parse source = .ok (.last link)) : readLink source = .ok link := by
  have joined := splitLinks_join .outside source
  obtain ⟨_, readAll⟩ := parse_eq_ok_iff.mp read
  cases later : (splitLinks .outside source).2 with
  | nil =>
    rw [later, List.flatMap_nil, List.append_nil] at joined
    rw [later, joined] at readAll
    obtain ⟨found, readFirst, same⟩ := exists_of_map_eq_ok readAll
    rw [readFirst, Selector.last.inj same]
  | cons next rest =>
    rw [later] at readAll
    obtain ⟨child, _, readFirst⟩ := exists_of_bind_eq_ok readAll
    obtain ⟨found, _, same⟩ := exists_of_bind_eq_ok readFirst
    cases Except.ok.inj same

section Marked
variable {escape : Char → Text} {link : Link} {condition : Condition} {expected : Text}

/-- A written link is read up to the first quotation mark of its value, and then what is left is
read as qualifiers. -/
theorem exists_of_readLink_renderWith (wellFormed : link.WellFormed)
    (asked : link.condition = some condition) (compared : condition.expected = some expected)
    {result : Link} (read : readLink (link.renderWith escape) = .ok result) :
    ∃ quoted rest later,
      readExpected.readQuoted condition.name condition.mode '"'
        (expected.flatMap escape ++ ['"', ']']) = .ok (quoted, rest) ∧
      readQualifiers rest = .ok later ∧
        result = linkOf link.tag (link.marks ++ .bracket quoted :: later) := by
  obtain ⟨start, startText, tag, _⟩ := exists_start wellFormed
  obtain ⟨marks, plain, marksText, sameMarks⟩ := exists_marks escape wellFormed
  have conditionWellFormed := wellFormed.condition condition asked
  have signed : condition.mode ≠ .present := fun present => by
    rw [conditionWellFormed.expected.mpr present] at compared
    cases compared
  let inside : Text :=
    condition.name ++ (condition.mode.sign ++ '"' :: (expected.flatMap escape ++ ['"', ']']))
  have whole : link.renderWith escape =
      Space.nothing.text ++ (start.text ++ (partsText marks ++ '[' :: inside)) := by
    rw [startText, marksText, Link.renderWith, Link.qualifiers, asked]
    simp [Qualifier.renderWith, Condition.renderWith, compared, inside, Space.nothing]
  have reading : readCondition inside = readExpected.readQuoted condition.name condition.mode '"'
      (expected.flatMap escape ++ ['"', ']']) := by
    have named := readCondition_name .nothing (.ofIsWord conditionWellFormed.name)
      (sign_head signed ('"' :: (expected.flatMap escape ++ ['"', ']'])))
    have compares := readComparison_sign condition.name .nothing signed
      ('"' :: (expected.flatMap escape ++ ['"', ']']))
    exact named.trans compares
  have bracket : ∀ c ∈ ('[' :: inside).head?, isIdentChar c = false :=
    Text.stop_of_cons (by decide) inside
  rw [whole, readLink_start _ (partsText_head marks bracket) fun _ => partsText_mark fun _ =>
    ⟨'[', inside, rfl, .inr (.inr rfl)⟩, readQualifiers_parts plain bracket, sameMarks, tag] at read
  obtain ⟨qualifiers, readMarks, rfl⟩ := exists_of_map_eq_ok read
  obtain ⟨behind, readBracket, rfl⟩ := exists_of_map_eq_ok readMarks
  have first : readQualifier '[' inside = (readExpected.readQuoted condition.name condition.mode '"'
      (expected.flatMap escape ++ ['"', ']'])).map (Prod.map .bracket id) := by
    rw [readQualifier, if_neg (by decide), if_neg (by decide), if_pos rfl, reading]
    rfl
  have skip : Text.skipSpace ('[' :: inside) = '[' :: inside := rfl
  rw [readQualifiers_eq, skip] at readBracket
  dsimp only at readBracket
  rw [first] at readBracket
  cases found : readExpected.readQuoted condition.name condition.mode '"'
      (expected.flatMap escape ++ ['"', ']']) with
  | error fault =>
    rw [found] at readBracket
    cases readBracket
  | ok result =>
    obtain ⟨quoted, rest⟩ := result
    rw [found] at readBracket
    obtain ⟨later, readLater, rfl⟩ := exists_of_map_eq_ok readBracket
    exact ⟨quoted, rest, later, rfl, readLater, rfl⟩

theorem exists_of_append_eq_concat {α : Type} {front tail back : List α} {last : α}
    (whole : front ++ tail = back ++ [last]) (filled : tail ≠ []) :
    ∃ init, tail = init ++ [last] ∧ back = front ++ init := by
  obtain rfl | ⟨init, final, rfl⟩ := List.eq_nil_or_concat' tail
  · exact absurd rfl filled
  · rw [← List.append_assoc] at whole
    obtain ⟨same, final⟩ := List.append_inj' whole rfl
    exact ⟨init, by rw [final], same.symm⟩

theorem Grammar.Space.eq_nil_of_append {space : Space} {front back : Text} {c : Char}
    (whole : front ++ space.text = back ++ [c]) (mark : Text.isSpace c = false) :
    space.text = [] := by
  by_contra filled
  obtain ⟨init, ends, _⟩ := exists_of_append_eq_concat whole filled
  exact space.notMem mark (by simp [ends])

theorem Grammar.Word.append_ne {p : Char → Bool} (word : Word p) {front back : Text} {c : Char}
    (outside : p c = false) : front ++ word.text ≠ back ++ [c] := fun whole => by
  obtain ⟨init, ends, _⟩ := exists_of_append_eq_concat whole word.nonempty
  exact word.notMem outside (by simp [ends])

theorem Grammar.Value.text_ne_nil (value : Value) : value.text ≠ [] := by
  cases value with
  | quoted => exact List.cons_ne_nil _ _
  | bare content closed unmarked inhabited =>
    intro empty
    obtain rfl : content = [] := empty
    exact inhabited rfl

/-- Qualifiers that end in a quotation mark and a bracket end with a condition on a value that
ends in the mark, and in front of the value there is at least a sign. -/
theorem exists_bracket_of_append {parts : List (Space × Part)} {after : Space} {front : Text}
    (whole : partsText parts ++ after.text = front ++ ['"', ']']) :
    ∃ earlier space inside comparison init lead, parts = earlier ++ [(space, .bracket inside)] ∧
      inside.comparison = some comparison ∧ comparison.value.text = init ++ ['"'] ∧
        front = lead ++ (comparison.mode.sign ++ comparison.before.text) ++ init := by
  have closing : front ++ ['"', ']'] = (front ++ ['"']) ++ [']'] := by simp
  rw [closing] at whole
  rw [Space.eq_nil_of_append whole (by decide), List.append_nil] at whole
  obtain rfl | ⟨earlier, ⟨space, part⟩, rfl⟩ := List.eq_nil_or_concat' parts
  · simp [partsText] at whole
  have lastPart : partsText (earlier ++ [(space, part)]) =
      (partsText earlier ++ space.text) ++ part.text := by simp [partsText]
  rw [lastPart] at whole
  cases part with
  | identifier space word =>
    rw [Part.text, ← List.cons_append, ← List.append_assoc] at whole
    exact absurd whole (word.append_ne (by decide))
  | className space word =>
    rw [Part.text, ← List.cons_append, ← List.append_assoc] at whole
    exact absurd whole (word.append_ne (by decide))
  | bracket inside =>
    obtain ⟨before, name, behind, comparison⟩ := inside
    let lead := partsText earlier ++ space.text ++ '[' :: before.text
    have ends : lead ++ name.text ++ behind.text ++ (comparison.map Comparison.text).getD [] =
        front ++ ['"'] := by
      have closed : lead ++ name.text ++ behind.text ++
          (comparison.map Comparison.text).getD [] ++ [']'] = front ++ ['"'] ++ [']'] := by
        rw [← whole]
        simp [Part.text, Bracket.text, lead]
      exact List.append_cancel_right closed
    cases comparison with
    | none =>
      rw [Option.map_none, Option.getD_none, List.append_nil] at ends
      rw [Space.eq_nil_of_append ends (by decide), List.append_nil] at ends
      exact absurd ends (name.append_ne (by decide))
    | some comparison =>
      rw [Option.map_some, Option.getD_some, Comparison.text] at ends
      simp only [← List.append_assoc] at ends
      rw [Space.eq_nil_of_append ends (by decide), List.append_nil] at ends
      obtain ⟨init, valued, rfl⟩ := exists_of_append_eq_concat ends comparison.value.text_ne_nil
      exact ⟨earlier, space, _, comparison, init, lead ++ name.text ++ behind.text, rfl, rfl, valued,
        by simp⟩

/-- Where the first quotation mark among what is written ends the value, a closing bracket is
among what follows, and the last quotation mark stands in front of the last bracket. -/
theorem exists_of_readQuoted {name : Text} {mode : MatchMode} {written rest : Text}
    {quoted : Condition} (marked : '"' ∈ written)
    (read : readExpected.readQuoted name mode '"' (written ++ ['"', ']']) = .ok (quoted, rest)) :
    ∃ before front, written = before ++ ']' :: front ∧ rest = front ++ ['"', ']'] := by
  obtain ⟨content, after, closed, -, split⟩ := readQuoted_sound read
  obtain ⟨middle, value, ends⟩ := Text.exists_append_of_append_eq split.symm
    fun c first => Option.some.inj first ▸ closed
  cases middle with
  | nil =>
    rw [value, List.append_nil] at marked
    exact absurd marked closed
  | cons c back =>
    obtain ⟨rfl, tail⟩ := List.cons.inj ends
    obtain ⟨middle, rfl, behind⟩ := Text.exists_append_of_append_eq tail
      fun c first => Option.some.inj first ▸ after.notMem (by decide)
    cases middle with
    | nil => exact absurd (List.cons.inj behind).1 (by decide)
    | cons c front =>
      obtain ⟨rfl, rfl⟩ := List.cons.inj behind
      exact ⟨content ++ '"' :: after.text, front, by simp [value], rfl⟩

theorem not_mem_sign (mode : MatchMode) : '\\' ∉ mode.sign := by
  cases mode <;> decide

theorem sign_ne_nil {mode : MatchMode} (signed : mode ≠ .present) : mode.sign ≠ [] := by
  cases mode with
  | present => exact absurd rfl signed
  | _ => exact List.cons_ne_nil _ _

/-- With a quotation mark among what is written the link is not read back. The condition that
counts is the last one, behind a bracket that the expected text contains: it has no such text if it
is not quoted, and the mark that opens a quotation is not behind a backslash. -/
theorem readLink_renderWith_ne_of_marked (escaping : Text.IsEscaping escape)
    (wellFormed : link.WellFormed) (asked : link.condition = some condition)
    (compared : condition.expected = some expected) (marked : '"' ∈ expected.flatMap escape) :
    readLink (link.renderWith escape) ≠ .ok link := by
  intro read
  obtain ⟨quoted, rest, later, readValue, readLater, same⟩ :=
    exists_of_readLink_renderWith wellFormed asked compared read
  obtain ⟨before, front, written, rfl⟩ := exists_of_readQuoted marked readValue
  have bracket : ']' ∈ expected := escaping.mem_of_mem_flatMap (by simp [written])
  obtain ⟨parts, after, rfl, ends⟩ := readQualifiers_sound readLater
  obtain ⟨earlier, space, inside, comparison, init, lead, rfl, compares, valued, rfl⟩ :=
    exists_bracket_of_append ends.symm
  have last : link.condition = some inside.condition := by
    rw [List.map_append, ← List.cons_append, ← List.append_assoc] at same
    rw [same]
    exact linkOf_append_bracket _ _ _
  obtain rfl : condition = inside.condition := Option.some.inj (asked.symm.trans last)
  rw [Bracket.condition, conditionOf, compares] at compared
  obtain rfl : comparison.value.expected = expected := Option.some.inj compared
  cases value : comparison.value with
  | bare content closed =>
    rw [value] at bracket
    exact closed (Text.trim_subset content bracket)
  | quoted mark content =>
    rw [value, Value.text, ← List.cons_append] at valued
    obtain ⟨rfl, single⟩ := List.append_inj' valued rfl
    obtain rfl := List.singleton_inj.mp single
    have guarded := escaping.guarded_flatMap comparison.value.expected
      (before ++ ']' :: lead ++ (comparison.mode.sign ++ comparison.before.text)) content
      (by rw [written]; simp)
    obtain ⟨others, whole⟩ := List.getLast?_eq_some_iff.mp guarded
    have filled : comparison.mode.sign ++ comparison.before.text ≠ [] :=
      List.append_ne_nil_of_left_ne_nil (sign_ne_nil comparison.signed) _
    obtain ⟨init, ends, _⟩ := exists_of_append_eq_concat whole filled
    have backslash : '\\' ∈ comparison.mode.sign ++ comparison.before.text := by simp [ends]
    rcases List.mem_append.mp backslash with sign | blank
    · exact not_mem_sign comparison.mode sign
    · exact comparison.before.notMem (by decide) blank

end Marked

/-! ## The boundary -/

section Boundary
variable {escape : Char → Text}

theorem Link.unmarked_of_shown (escaping : Text.IsEscaping escape) {link : Link}
    (shown : (Selector.last link).Shown escape) : link.Unmarked escape := by
  intro condition asked expected compared marked
  have plain := shown link (List.mem_singleton_self _) condition asked expected compared
  rw [Text.flatMap_eq_of_shown plain] at marked
  exact escaping.mark (plain _ marked)

theorem parse_renderWith_of_shown (escaping : Text.IsEscaping escape) {selector : Selector}
    (wellFormed : selector.WellFormed) (shown : selector.Shown escape) :
    parse (selector.renderWith escape) = .ok selector := by
  have unmarked : ∀ link ∈ selector.links, link.Unmarked escape := fun link member =>
    Link.unmarked_of_shown escaping fun same here => List.mem_singleton.mp here ▸ shown link member
  rw [parse_renderWith wellFormed unmarked, escaped_of_shown shown]

/-- A single link with an escaped character is not read back: either its value is read as it is
written, which is another text, or it ends too early. -/
theorem parse_renderWith_ne_of_escaped (escaping : Text.IsEscaping escape) {link : Link}
    (wellFormed : link.WellFormed) (escaped : ¬ (Selector.last link).Shown escape) :
    parse ((Selector.last link).renderWith escape) ≠ .ok (.last link) := by
  intro read
  simp only [Selector.Shown, Selector.links, List.mem_singleton, forall_eq, not_forall] at escaped
  obtain ⟨condition, asked, expected, compared, c, member, changed⟩ := escaped
  by_cases marked : '"' ∈ expected.flatMap escape
  · exact readLink_renderWith_ne_of_marked escaping wellFormed asked compared marked
      (readLink_of_parse_last read)
  · have unmarked : link.Unmarked escape := fun other asks text compares => by
      obtain rfl := Option.some.inj (asked.symm.trans asks)
      obtain rfl := Option.some.inj (compared.symm.trans compares)
      exact marked
    have written : parse ((Selector.last link).renderWith escape) =
        .ok ((Selector.last link).escaped escape) :=
      parse_renderWith (List.forall_mem_singleton.mpr wellFormed)
        (List.forall_mem_singleton.mpr unmarked)
    rw [written] at read
    have same := congrArg Link.condition (Selector.last.inj (Except.ok.inj read))
    rw [Link.escaped, asked] at same
    have texts := congrArg Condition.expected (Option.some.inj same)
    change condition.expected.map _ = condition.expected at texts
    rw [Option.mem_def.mp compared] at texts
    exact escaping.flatMap_ne_of_escaped member changed (Option.some.inj texts)

/-- A well-formed selector is read back from its written form if no character of its expected texts
is escaped. A single link with an escaped character is not. -/
theorem parse_render {selector : Selector} (wellFormed : selector.WellFormed) :
    (∀ escape, Text.IsEscaping escape →
      (selector.Shown escape → parse (selector.renderWith escape) = .ok selector) ∧
      ∀ link, selector = .last link → ¬ selector.Shown escape →
        parse (selector.renderWith escape) ≠ .ok selector) ∧
    (selector.Shown (Text.escapeChar '"') → parse selector.render = .ok selector) ∧
    ∀ link, selector = .last link → ¬ selector.Shown (Text.escapeChar '"') →
      parse selector.render ≠ .ok selector := by
  have all escape (escaping : Text.IsEscaping escape) :
      (selector.Shown escape → parse (selector.renderWith escape) = .ok selector) ∧
      ∀ link, selector = .last link → ¬ selector.Shown escape →
        parse (selector.renderWith escape) ≠ .ok selector := by
    refine ⟨parse_renderWith_of_shown escaping wellFormed, ?_⟩
    rintro link rfl escaped
    exact parse_renderWith_ne_of_escaped escaping (wellFormed link (List.mem_singleton_self _))
      escaped
  have own := all _ Text.isEscaping_escapeChar
  rw [selector.renderWith_escapeChar] at own
  exact ⟨all, own⟩

/-- A chain with brackets and an apostrophe in its value is read back, and a condition on a
quotation mark is not. -/
theorem parse_render_quoted :
    let chain : Selector :=
      .parent ⟨some ['a'], none, ∅, some ⟨['t'], some "it's]>".toList, .equals⟩⟩
        (.last ⟨none, some ['b'], ∅, none⟩)
    let single : Selector := .last ⟨none, none, ∅, some ⟨['t'], some ['"'], .equals⟩⟩
    chain.WellFormed ∧ parse chain.render = .ok chain ∧
      single.WellFormed ∧ parse single.render ≠ .ok single := by
  intro chain single
  have chainWellFormed : chain.WellFormed := by decide
  have singleWellFormed : single.WellFormed := by decide
  exact ⟨chainWellFormed, (parse_render chainWellFormed).2.1 (by decide), singleWellFormed,
    (parse_render singleWellFormed).2.2 _ rfl (by decide)⟩

end Boundary

end Selector

/-! ## Queries with the written form -/

theorem query_of_parse {source : Text} {selector : Selector}
    (read : parse source = .ok selector) (mode : ExtractMode) (html : Text) :
    query mode html source = .ok (selector.find (Markup.extract mode html)) := by
  rw [query, Selector.ofText, read]
  rfl

/-- A query with the written form of an accepted selector is the query with the selector if nothing
is escaped. With escapes, but none of a quotation mark, it is the query for the texts as they are
written. With any escape the written form of a single link is not read back as that link. -/
theorem query_render {source : Text} {selector : Selector} (read : parse source = .ok selector)
    (mode : ExtractMode) (html : Text) :
    (selector.Shown (Text.escapeChar '"') →
      query mode html selector.render = query mode html source ∧
        query mode html source = .ok (selector.find (Markup.extract mode html))) ∧
    ((∀ link ∈ selector.links, link.Unmarked (Text.escapeChar '"')) →
      query mode html selector.render =
        .ok ((selector.escaped (Text.escapeChar '"')).find (Markup.extract mode html))) ∧
    ∀ link, selector = .last link → ¬ selector.Shown (Text.escapeChar '"') →
      parse selector.render ≠ .ok selector := by
  have wellFormed := wellFormed_of_parse read
  rw [← selector.renderWith_escapeChar]
  refine ⟨fun shown => ?_, fun unmarked => ?_, ?_⟩
  · have again := parse_renderWith_of_shown Text.isEscaping_escapeChar wellFormed shown
    rw [query_of_parse again, query_of_parse read]
    exact ⟨rfl, rfl⟩
  · exact query_of_parse (parse_renderWith wellFormed unmarked) mode html
  · rintro link rfl escaped
    exact parse_renderWith_ne_of_escaped Text.isEscaping_escapeChar
      (wellFormed link (List.mem_singleton_self _)) escaped

/-- A quoted `>` is asked for again, and so is a backslash, but as two of them. A quotation mark is
not. -/
theorem query_render_quoted :
    let html := "<a t='x>]'></a><i t='\\\\'></i>".toList
    (∃ selector, parse "[t='x>]']".toList = .ok selector ∧
      query .shallow html selector.render = query .shallow html "[t='x>]']".toList) ∧
    (∃ selector, parse "[t='\\']".toList = .ok selector ∧
      query .shallow html selector.render =
        .ok [⟨['i'], ⟨[⟨['t'], ['\\', '\\']⟩]⟩, []⟩]) ∧
    ∃ selector, parse "[t='\"']".toList = .ok selector ∧
      parse selector.render ≠ .ok selector := by
  intro html
  let plain : Selector := .last ⟨none, none, ∅, some ⟨['t'], some "x>]".toList, .equals⟩⟩
  let escaped : Selector := .last ⟨none, none, ∅, some ⟨['t'], some ['\\'], .equals⟩⟩
  let marked : Selector := .last ⟨none, none, ∅, some ⟨['t'], some ['"'], .equals⟩⟩
  have readPlain : parse "[t='x>]']".toList = .ok plain := by decide +kernel
  have readEscaped : parse "[t='\\']".toList = .ok escaped := by decide +kernel
  have readMarked : parse "[t='\"']".toList = .ok marked := by decide +kernel
  have found : (escaped.escaped (Text.escapeChar '"')).find (Markup.extract .shallow html) =
      [⟨['i'], ⟨[⟨['t'], ['\\', '\\']⟩]⟩, []⟩] := by decide +kernel
  refine ⟨⟨plain, readPlain, ?_⟩, ⟨escaped, readEscaped, ?_⟩, ⟨marked, readMarked, ?_⟩⟩
  · exact ((query_render readPlain .shallow html).1 (by decide)).1
  · rw [(query_render readEscaped .shallow html).2.1 (by decide), found]
  · exact (query_render readMarked .shallow html).2.2 _ rfl (by decide)

/-- A selector that asks for a backslash is accepted and finds it. Its written form has two of them
between the quotation marks and does not find it. -/
theorem query_render_backslash :
    let html := "<i t='\\'></i>".toList
    let selector : Selector := .last ⟨none, none, ∅, some ⟨['t'], some ['\\'], .equals⟩⟩
    parse "[t=\"\\\"]".toList = .ok selector ∧ selector.render = "[t=\"\\\\\"]".toList ∧
      query .shallow html "[t=\"\\\"]".toList = .ok [⟨['i'], ⟨[⟨['t'], ['\\']⟩]⟩, []⟩] ∧
      query .shallow html selector.render = .ok [] := by
  decide +kernel

end TagQuery
