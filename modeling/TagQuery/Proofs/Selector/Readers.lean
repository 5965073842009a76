import TagQuery.Proofs.Selector.Grammar
import TagQuery.Proofs.Text.Cutting

/-!
# Readers of selectors

Each reader reads the tokens that the grammar allows in its place. What it accepts is the text of
such tokens with their meaning (`..._sound`), and in front of a rest that does not go on with the
last token it reads such a text to its end (`..._complete`).

A value that is not quoted reaches to the closing bracket. White space in front of it is skipped,
so that it is read as it stands only if no quotation mark comes first then; a value without
quotation marks always is.
-/

namespace TagQuery.Selector.Grammar

/-! ## White space and names -/

theorem isIdentChar_of_isSpace {c : Char} (space : Text.isSpace c = true) :
    isIdentChar c = false := Text.eq_false_of_isSpace (by decide) space

theorem isNameChar_of_isSpace {c : Char} (space : Text.isSpace c = true) :
    isNameChar c = false := Text.eq_false_of_isSpace (by decide) space

theorem Space.skip (space : Space) (rest : Text)
    (stop : ∀ c ∈ rest.head?, Text.isSpace c = false) :
    Text.skipSpace (space.text ++ rest) = rest := Text.dropWhile_run space.blank stop

theorem Space.skipSpace_append (space : Space) (rest : Text) :
    Text.skipSpace (space.text ++ rest) = Text.skipSpace rest :=
  List.dropWhile_append_of_pos space.blank

/-- What white space and a rest start with. -/
theorem Space.head_append (space : Space) {p : Char → Bool} {rest : Text}
    (apart : ∀ c, Text.isSpace c = true → p c = false) (stop : ∀ c ∈ rest.head?, p c = false) :
    ∀ c ∈ (space.text ++ rest).head?, p c = false := by
  obtain ⟨text, blank⟩ := space
  cases text with
  | nil => exact stop
  | cons first more =>
    have outside := apart first (blank first List.mem_cons_self)
    exact Text.stop_of_cons outside (more ++ rest)

theorem exists_space (text : Text) :
    ∃ space : Space, text = space.text ++ Text.skipSpace text ∧
      ∀ c ∈ (Text.skipSpace text).head?, Text.isSpace c = false := by
  obtain ⟨run, rest, rfl, inside, ends⟩ := Text.exists_run Text.isSpace text
  rw [Text.skipSpace, Text.dropWhile_run inside ends]
  exact ⟨⟨run, inside⟩, rfl, ends⟩

namespace Word
variable {p : Char → Bool} (word : Word p) {rest : Text}

theorem exists_first : ∃ first more, word.text = first :: more ∧ p first = true := by
  obtain ⟨first, more, whole⟩ := List.exists_cons_of_ne_nil word.nonempty
  exact ⟨first, more, whole, word.inside first (by rw [whole]; exact List.mem_cons_self)⟩

/-- A word starts with no character outside its class. -/
theorem head_append {q : Char → Bool} (rest : Text) (apart : ∀ c, q c = true → p c = false) :
    ∀ c ∈ (word.text ++ rest).head?, q c = false := by
  obtain ⟨first, more, whole, inside⟩ := word.exists_first
  rw [whole]
  intro c same
  obtain rfl := Option.some.inj same
  rw [← Bool.not_eq_true]
  intro outside
  rw [apart first outside] at inside
  cases inside

theorem takeWhile (stop : ∀ c ∈ rest.head?, p c = false) :
    (word.text ++ rest).takeWhile p = word.text := Text.takeWhile_run word.inside stop

theorem dropWhile (stop : ∀ c ∈ rest.head?, p c = false) :
    (word.text ++ rest).dropWhile p = rest := Text.dropWhile_run word.inside stop

end Word

/-- The longest run at the start of a text is a word, if it is not empty. -/
theorem exists_word {p : Char → Bool} {text : Text} (nonempty : (text.takeWhile p).isEmpty = false) :
    ∃ word : Word p, word.text = text.takeWhile p ∧ text = word.text ++ text.dropWhile p :=
  ⟨⟨text.takeWhile p, by simpa using nonempty, fun _ member => List.mem_takeWhile_imp member⟩, rfl,
    List.takeWhile_append_dropWhile.symm⟩

/-! ## Identifiers -/

theorem readIdentifier_sound {mark : Char} {text name rest : Text}
    (read : readIdentifier mark text = .ok (name, rest)) :
    ∃ (space : Space) (word : Word isIdentChar), name = word.text ∧
      text = space.text ++ (word.text ++ rest) := by
  obtain ⟨space, whole, _⟩ := exists_space text
  unfold readIdentifier at read
  dsimp only at read
  split at read
  · cases read
  · rename_i nonempty
    cases read
    obtain ⟨word, same, split⟩ := exists_word (Bool.eq_false_iff.mpr nonempty)
    exact ⟨space, word, same.symm, by rw [← split]; exact whole⟩

theorem readIdentifier_complete (mark : Char) (space : Space) (word : Word isIdentChar)
    {rest : Text} (stop : ∀ c ∈ rest.head?, isIdentChar c = false) :
    readIdentifier mark (space.text ++ (word.text ++ rest)) = .ok (word.text, rest) := by
  have nonempty : word.text.isEmpty = false := by simpa using word.nonempty
  have skip := space.skip _ (word.head_append rest fun _ => isIdentChar_of_isSpace)
  simp only [readIdentifier, skip, word.takeWhile stop, word.dropWhile stop, nonempty,
    Bool.false_eq_true, ↓reduceIte]

/-! ## Values -/

theorem readClosing_eq_ok_iff {condition result : Condition} {text rest : Text} :
    readClosing condition text = .ok (result, rest) ↔
      result = condition ∧ text = ']' :: rest := by
  constructor
  · intro read
    unfold readClosing at read
    split at read
    · cases read
      exact ⟨rfl, rfl⟩
    · cases read
    · cases read
  · rintro ⟨rfl, rfl⟩
    rfl

theorem readQuoted_sound {name : Text} {mode : MatchMode} {mark : Char} {text rest : Text}
    {condition : Condition}
    (read : readExpected.readQuoted name mode mark text = .ok (condition, rest)) :
    ∃ (content : Text) (after : Space), mark ∉ content ∧ condition = ⟨name, some content, mode⟩ ∧
      text = content ++ mark :: (after.text ++ ']' :: rest) := by
  obtain ⟨content, tail, rfl, inside, ends⟩ := Text.exists_run (· != mark) text
  have closed : mark ∉ content := fun member => by simpa using inside mark member
  simp only [readExpected.readQuoted, Text.takeWhile_run inside ends,
    Text.dropWhile_run inside ends] at read
  cases tail with
  | nil => cases read
  | cons c tail =>
    obtain ⟨after, whole, _⟩ := exists_space tail
    obtain ⟨rfl, bracket⟩ := readClosing_eq_ok_iff.mp read
    have same : c = mark := by simpa using ends c rfl
    exact ⟨content, after, closed, rfl, by rw [same, ← bracket, ← whole]⟩

theorem readQuoted_complete (name : Text) (mode : MatchMode) {mark : Char} {content : Text}
    (closed : mark ∉ content) (after : Space) (rest : Text) :
    readExpected.readQuoted name mode mark (content ++ mark :: (after.text ++ ']' :: rest)) =
      .ok (⟨name, some content, mode⟩, rest) := by
  have inside := Text.all_bne_of_notMem closed
  have ends : ∀ c ∈ (mark :: (after.text ++ ']' :: rest)).head?, (c != mark) = false := by simp
  have bracket : ∀ c ∈ (']' :: rest).head?, Text.isSpace c = false :=
    Text.stop_of_cons (by decide) rest
  simp only [readExpected.readQuoted, Text.takeWhile_run inside ends,
    Text.dropWhile_run inside ends, after.skip _ bracket]
  rfl

theorem readExpected_sound {name : Text} {mode : MatchMode} {text rest : Text}
    {condition : Condition} (read : readExpected name mode text = .ok (condition, rest)) :
    ∃ (before : Space) (value : Value) (after : Space),
      condition = ⟨name, some value.expected, mode⟩ ∧
        text = before.text ++ (value.text ++ (after.text ++ ']' :: rest)) := by
  obtain ⟨before, whole, _⟩ := exists_space text
  have quoted {mark : Char} {start : Text} (isMark : mark = '"' ∨ mark = '\'')
      (found : Text.skipSpace text = mark :: start)
      (inside : readExpected.readQuoted name mode mark start = .ok (condition, rest)) :
      ∃ (before : Space) (value : Value) (after : Space),
        condition = ⟨name, some value.expected, mode⟩ ∧
          text = before.text ++ (value.text ++ (after.text ++ ']' :: rest)) := by
    obtain ⟨content, after, closed, rfl, rfl⟩ := readQuoted_sound inside
    refine ⟨before, .quoted mark content isMark closed, after, rfl, ?_⟩
    rw [whole, found]
    simp [Value.text]
  unfold readExpected at read
  split at read
  · rename_i found
    exact quoted (.inl rfl) found read
  · rename_i found
    exact quoted (.inr rfl) found read
  · rename_i double single
    dsimp only at read
    split at read
    · cases read
    · rename_i inhabited
      obtain ⟨rfl, bracket⟩ := readClosing_eq_ok_iff.mp read
      have split := List.takeWhile_append_dropWhile (p := (· != ']')) (l := Text.skipSpace text)
      have closed : ']' ∉ (Text.skipSpace text).takeWhile (· != ']') := fun member => by
        simpa using List.mem_takeWhile_imp member
      have unmarked : ∀ c ∈ ((Text.skipSpace text).takeWhile (· != ']')).head?,
          c ≠ '"' ∧ c ≠ '\'' := by
        intro c first
        obtain ⟨more, found⟩ := List.head?_eq_some_iff.mp first
        rw [found, List.cons_append] at split
        refine ⟨?_, ?_⟩
        · rintro rfl
          exact double _ split.symm
        · rintro rfl
          exact single _ split.symm
      refine ⟨before, .bare _ closed unmarked (by simpa using inhabited), ⟨[], nofun⟩, rfl, ?_⟩
      rw [Value.text, List.nil_append, ← bracket, split]
      exact whole

theorem Space.isBlank (space : Space) : ∀ c ∈ space.text, Text.isBlank c = true :=
  fun c member => Text.isBlank_of_isSpace (space.blank c member)

/-- A value without quotation marks is read up to the closing bracket. -/
theorem readExpected_bare (name : Text) (mode : MatchMode) (before after : Space) {content : Text}
    (closed : ']' ∉ content) (inhabited : Text.trim content ≠ [])
    (plain : '"' ∉ content ∧ '\'' ∉ content) (rest : Text) :
    readExpected name mode (before.text ++ (content ++ (after.text ++ ']' :: rest))) =
      .ok (⟨name, some (Text.trim content), mode⟩, rest) := by
  obtain ⟨lead, whole, stop⟩ := exists_space content
  generalize Text.skipSpace content = core at whole stop
  subst whole
  rw [Text.trim_append_left lead.isBlank] at inhabited ⊢
  obtain ⟨first, more, rfl⟩ : ∃ first more, core = first :: more :=
    List.exists_cons_of_ne_nil fun empty => inhabited (by rw [empty]; rfl)
  have skipped : Text.skipSpace (before.text ++ (lead.text ++ first :: more ++
      (after.text ++ ']' :: rest))) = first :: more ++ (after.text ++ ']' :: rest) := by
    rw [before.skipSpace_append, List.append_assoc]
    exact lead.skip _ stop
  have within : ∀ c ∈ first :: more ++ after.text, (c != ']') = true := by
    apply Text.all_bne_of_notMem
    have outside : ']' ∉ after.text := fun member => absurd (after.blank _ member) (by decide)
    simp only [List.mem_append, not_or] at closed ⊢
    exact ⟨closed.2, outside⟩
  have ends : ∀ c ∈ (']' :: rest).head?, (c != ']') = false := by simp
  have trimmed : Text.trim (first :: more ++ after.text) = Text.trim (first :: more) :=
    Text.trim_append_right after.isBlank
  have nonempty : (Text.trim (first :: more)).isEmpty = false := by simpa using inhabited
  unfold readExpected
  rw [skipped]
  split
  · rename_i found
    obtain rfl := (List.cons.inj found).1
    simp at plain
  · rename_i found
    obtain rfl := (List.cons.inj found).1
    simp at plain
  · simp only [← List.append_assoc, Text.takeWhile_run within ends, Text.dropWhile_run within ends,
      trimmed, nonempty, Bool.false_eq_true, ↓reduceIte]
    rfl

theorem readExpected_complete (name : Text) (mode : MatchMode) (before after : Space)
    {value : Value} (plain : value.Plain) (rest : Text) :
    readExpected name mode (before.text ++ (value.text ++ (after.text ++ ']' :: rest))) =
      .ok (⟨name, some value.expected, mode⟩, rest) := by
  cases value with
  | bare content closed _ inhabited =>
    exact readExpected_bare name mode before after closed inhabited plain rest
  | quoted mark content isMark closed =>
    have stop : Text.isSpace mark = false := by rcases isMark with rfl | rfl <;> decide
    have skip := before.skip (mark :: (content ++ mark :: (after.text ++ ']' :: rest)))
      (Text.stop_of_cons stop _)
    have read := readQuoted_complete name mode closed after rest
    have whole : before.text ++ ((Value.quoted mark content isMark closed).text ++
        (after.text ++ ']' :: rest)) =
        before.text ++ mark :: (content ++ mark :: (after.text ++ ']' :: rest)) := by
      simp [Value.text]
    rw [whole, readExpected, skip]
    rcases isMark with rfl | rfl
    · exact read
    · exact read

/-! ## Conditions -/

theorem sign_of_ofMark? {c : Char} {mode : MatchMode} (found : MatchMode.ofMark? c = some mode) :
    mode ≠ .present ∧ mode.sign = [c, '='] := by
  unfold MatchMode.ofMark? at found
  split at found <;> cases found <;> exact ⟨nofun, rfl⟩

theorem isSpace_of_ofMark? {c : Char} {mode : MatchMode} (found : MatchMode.ofMark? c = some mode) :
    Text.isSpace c = false := by
  unfold MatchMode.ofMark? at found
  split at found <;> first | decide | cases found

theorem isNameChar_of_ofMark? {c : Char} {mode : MatchMode}
    (found : MatchMode.ofMark? c = some mode) : isNameChar c = false := by
  unfold MatchMode.ofMark? at found
  split at found <;> first | decide | cases found

/-- The sign of a mode is `=`, or `=` after the mark of the mode. -/
theorem equals_or_ofMark? {mode : MatchMode} (signed : mode ≠ .present) :
    mode = .equals ∨ ∃ c, MatchMode.ofMark? c = some mode := by
  cases mode with
  | equals => exact .inl rfl
  | startsWith => exact .inr ⟨'^', rfl⟩
  | endsWith => exact .inr ⟨'$', rfl⟩
  | contains => exact .inr ⟨'*', rfl⟩
  | listContains => exact .inr ⟨'~', rfl⟩
  | exactOrStart => exact .inr ⟨'|', rfl⟩
  | present => exact (signed rfl).elim

/-- The name of an attribute ends before a sign. -/
theorem sign_head {mode : MatchMode} (signed : mode ≠ .present) (text : Text) :
    ∀ c ∈ (mode.sign ++ text).head?, isNameChar c = false := by
  rcases equals_or_ofMark? signed with rfl | ⟨mark, found⟩
  · exact Text.stop_of_cons (by decide) _
  · rw [(sign_of_ofMark? found).2]
    exact Text.stop_of_cons (isNameChar_of_ofMark? found) _

/-- The name of an attribute ends before a comparison, and before the closing bracket. -/
theorem comparison_head (comparison : Option Comparison) (rest : Text) :
    ∀ c ∈ ((comparison.map Comparison.text).getD [] ++ ']' :: rest).head?,
      isNameChar c = false := by
  cases comparison with
  | none => exact Text.stop_of_cons (by decide) rest
  | some comparison =>
    rw [Option.map_some, Option.getD_some, Comparison.text, List.append_assoc]
    exact sign_head comparison.signed _

/-- After the sign of a mode the value is read. -/
theorem readComparison_sign (name : Text) (after : Space) {mode : MatchMode}
    (signed : mode ≠ .present) (text : Text) :
    readComparison name (after.text ++ (mode.sign ++ text)) = readExpected name mode text := by
  rcases equals_or_ofMark? signed with rfl | ⟨c, found⟩
  · have stop : ∀ c ∈ ('=' :: text).head?, Text.isSpace c = false :=
      fun c first => Option.some.inj first ▸ by decide
    have sign : MatchMode.equals.sign = ['='] := rfl
    rw [readComparison, sign, List.singleton_append, after.skip _ stop]
    rfl
  · have stop : ∀ d ∈ (c :: '=' :: text).head?, Text.isSpace d = false :=
      fun d first => Option.some.inj first ▸ isSpace_of_ofMark? found
    have sign : mode.sign ++ text = c :: '=' :: text := by rw [(sign_of_ofMark? found).2]; rfl
    rw [readComparison, sign, after.skip _ stop]
    split
    · rename_i same
      cases same
    · rename_i same
      rw [(List.cons.inj same).1] at found
      cases found
    · rename_i same
      rw [(List.cons.inj same).1] at found
      cases found
    · rename_i same
      cases same
    · rename_i same
      obtain ⟨rfl, later⟩ := List.cons.inj same
      obtain ⟨rfl, rfl⟩ := List.cons.inj later
      simp only [found, ↓reduceIte]

theorem readComparison_sound {name text rest : Text} {condition : Condition}
    (read : readComparison name text = .ok (condition, rest)) :
    ∃ (after : Space) (comparison : Option Comparison), condition = conditionOf name comparison ∧
      text = after.text ++ ((comparison.map Comparison.text).getD [] ++ ']' :: rest) := by
  obtain ⟨after, whole, _⟩ := exists_space text
  have signed {mode : MatchMode} {tail : Text} (sign : mode ≠ .present)
      (skipped : Text.skipSpace text = mode.sign ++ tail)
      (found : readExpected name mode tail = .ok (condition, rest)) :
      ∃ (after : Space) (comparison : Option Comparison),
        condition = conditionOf name comparison ∧
          text = after.text ++ ((comparison.map Comparison.text).getD [] ++ ']' :: rest) := by
    obtain ⟨before, value, behind, rfl, rfl⟩ := readExpected_sound found
    refine ⟨after, some ⟨mode, sign, before, value, behind⟩, rfl, ?_⟩
    rw [whole, skipped]
    simp [Comparison.text]
  unfold readComparison at read
  split at read
  · cases read
  · rename_i skipped
    cases read
    exact ⟨after, none, rfl, by rw [← skipped]; exact whole⟩
  · rename_i skipped
    have sign : MatchMode.equals ≠ .present := nofun
    exact signed sign skipped read
  · cases read
  · rename_i skipped
    split at read
    · rename_i mode found
      split at read
      · rename_i equals
        obtain ⟨sign, written⟩ := sign_of_ofMark? found
        refine signed sign ?_ read
        rw [skipped, equals, written]
        rfl
      · cases read
    · cases read

theorem readComparison_complete (name : Text) (after : Space) {comparison : Option Comparison}
    (plain : ∀ found ∈ comparison, found.value.Plain) (rest : Text) :
    readComparison name
        (after.text ++ ((comparison.map Comparison.text).getD [] ++ ']' :: rest)) =
      .ok (conditionOf name comparison, rest) := by
  cases comparison with
  | none =>
    have stop : ∀ c ∈ (']' :: rest).head?, Text.isSpace c = false :=
      Text.stop_of_cons (by decide) rest
    rw [readComparison, Option.map_none, Option.getD_none, List.nil_append, after.skip _ stop]
    rfl
  | some comparison =>
    have read := readExpected_complete name comparison.mode comparison.before comparison.after
      (plain comparison rfl) rest
    rw [Option.map_some, Option.getD_some, Comparison.text, List.append_assoc,
      readComparison_sign name after comparison.signed, List.append_assoc, List.append_assoc]
    exact read

theorem readCondition_sound {text rest : Text} {condition : Condition}
    (read : readCondition text = .ok (condition, rest)) :
    ∃ bracket : Bracket, condition = bracket.condition ∧ text = bracket.text ++ rest := by
  obtain ⟨before, whole, _⟩ := exists_space text
  unfold readCondition at read
  dsimp only at read
  split at read
  · cases read
  · rename_i nonempty
    obtain ⟨word, same, split⟩ := exists_word (Bool.eq_false_iff.mpr nonempty)
    obtain ⟨after, comparison, rfl, tail⟩ := readComparison_sound read
    refine ⟨⟨before, word, after, comparison⟩, by rw [← same]; rfl, ?_⟩
    rw [whole, split, tail]
    simp [Bracket.text]

/-- A condition is read as its name and what follows it. -/
theorem readCondition_name (before : Space) (word : Word isNameChar) {tail : Text}
    (stop : ∀ c ∈ tail.head?, isNameChar c = false) :
    readCondition (before.text ++ (word.text ++ tail)) = readComparison word.text tail := by
  have skip := before.skip _ (word.head_append tail fun _ => isNameChar_of_isSpace)
  have nonempty : word.text.isEmpty = false := by simpa using word.nonempty
  simp only [readCondition, skip, word.takeWhile stop, word.dropWhile stop, nonempty,
    Bool.false_eq_true, ↓reduceIte]

theorem readCondition_complete {bracket : Bracket} (plain : bracket.Plain) (rest : Text) :
    readCondition (bracket.text ++ rest) = .ok (bracket.condition, rest) := by
  obtain ⟨before, word, after, comparison⟩ := bracket
  let tail := after.text ++ ((comparison.map Comparison.text).getD [] ++ ']' :: rest)
  have stop : ∀ c ∈ tail.head?, isNameChar c = false :=
    after.head_append (fun _ => isNameChar_of_isSpace) (comparison_head comparison rest)
  have whole : (Bracket.mk before word after comparison).text ++ rest =
      before.text ++ (word.text ++ tail) := by
    simp [Bracket.text, tail]
  rw [whole, readCondition_name before word stop]
  exact readComparison_complete word.text after plain rest

end TagQuery.Selector.Grammar
