import TagQuery.Proofs.Markup.Balance
import TagQuery.Proofs.Offset.Cut

/-!
# Tags at byte offsets

The tests of `Markup.startsOpener` and its neighbours as a reader of bytes makes them: at a
position, by looking at single bytes and windows of bytes. Each says at a position what the test of
characters says of the text that stands there, and the counts, which try every byte of a text as a
position, are the counts of its characters: no tag starts inside of a character.
-/

namespace TagQuery.Offset

open Text (utf8 utf8Length)

/-! ## Classes of bytes -/

theorem utf8Size_of_isWord {c : Char} (word : Text.isWord c = true) : c.utf8Size = 1 := by
  have below (last : Char) (ascii : last.utf8Size = 1) (within : c.val ≤ last.val) :
      c.utf8Size = 1 :=
    Char.utf8Size_eq_one_iff.mpr (UInt32.le_trans within (Char.utf8Size_eq_one_iff.mp ascii))
  rcases Bool.or_eq_true_iff.mp word with alphanum | underscore
  · rcases Bool.or_eq_true_iff.mp alphanum with alpha | digit
    · rcases Bool.or_eq_true_iff.mp alpha with upper | lower
      · exact below 'Z' rfl (of_decide_eq_true upper).2
      · exact below 'z' rfl (of_decide_eq_true (Bool.and_eq_true_iff.mp lower).2)
    · exact below '9' rfl (of_decide_eq_true (Bool.and_eq_true_iff.mp digit).2)
  · rw [beq_iff_eq.mp underscore]
    rfl

theorem utf8Size_of_isSpace {c : Char} (space : Text.isSpace c = true) : c.utf8Size = 1 := by
  rcases Text.isSpace_cases space with rfl | rfl | rfl | rfl | rfl <;> rfl

/-- Bytes of word characters. -/
def isWordByte : UInt8 → Bool := onAscii Text.isWord

/-- Bytes of white space inside tags. -/
def isSpaceByte : UInt8 → Bool := onAscii Text.isSpace

theorem readsAs_isWordByte : ReadsAs isWordByte Text.isWord :=
  readsAs_onAscii fun _ => utf8Size_of_isWord

theorem readsAs_isSpaceByte : ReadsAs isSpaceByte Text.isSpace :=
  readsAs_onAscii fun _ => utf8Size_of_isSpace

/-- A byte with an ASCII capital turned into its small letter. -/
def lowerByte (b : UInt8) : UInt8 :=
  if b < 0x80 then (Char.ofNat b.toNat).toLower.toUInt8 else b

/-! ## Names -/

/-- The word characters from a position on; none if the position is not on a boundary. -/
def wordRun (start : Nat) (text : Text) : Option Text :=
  match from? start text with
  | none => some []
  | some rest => upTo? ((utf8 rest).takeWhile isWordByte).length rest

/-- Whether bytes at a position are the expected ones, in any ASCII case. -/
def matchesAt (expected : Bytes) (position : Nat) (bytes : Bytes) : Bool :=
  position + expected.length ≤ bytes.length &&
    ((bytes.drop position).take expected.length).map lowerByte == expected.map lowerByte

/-- Whether an opener of the name starts at a position. -/
def openerAt (name : Text) (position : Nat) (bytes : Bytes) : Bool :=
  bytes[position]?.any (· == '<'.toUInt8) && matchesAt (utf8 name) (position + 1) bytes &&
    !bytes[position + 1 + utf8Length name]?.any isWordByte

/-- Whether a closer of the name starts at a position. -/
def closerAt (name : Text) (position : Nat) (bytes : Bytes) : Bool :=
  matchesAt (utf8 ['<', '/']) position bytes && matchesAt (utf8 name) (position + 2) bytes &&
    bytes[position + 2 + utf8Length name]?.any (· == '>'.toUInt8)

/-- Whether a tag closes itself, given where its name ends and where its `>` stands. -/
def selfClosing (nameEnd openEnd : Nat) (bytes : Bytes) : Option Bool :=
  match (subtract? openEnd 1).filter (nameEnd ≤ ·) with
  | none => some false
  | some slash =>
    if bytes[slash]?.any (· == '/'.toUInt8) then
      if slash = nameEnd then some true
      else (subtract? slash 1).map fun before => bytes[before]?.any isSpaceByte
    else some false

/-- The number of openers of a name in a text. -/
def countOpeners (name text : Text) : Nat :=
  (List.range (utf8Length text)).countP fun position => openerAt name position (utf8 text)

/-- The number of closers of a name in a text. -/
def countClosers (name text : Text) : Nat :=
  (List.range (utf8Length text)).countP fun position => closerAt name position (utf8 text)

/-- The text with one closer of the name added for each opener that has none. -/
def closeUnmatched (name text : Text) : Text :=
  text ++
    (List.replicate (countOpeners name text - countClosers name text) (Markup.closer name)).flatten

theorem At.wordRun_eq {text rest : Text} {position : Nat} (place : At text position rest) :
    wordRun position text = some (rest.takeWhile Text.isWord) := by
  have cut := upTo?_append (rest.takeWhile Text.isWord) (rest.dropWhile Text.isWord)
  rw [List.takeWhile_append_dropWhile] at cut
  rw [wordRun, place.from?_eq]
  dsimp only
  rw [takeWhile_utf8 readsAs_isWordByte, length_utf8, cut]

/-! ## Comparing without regard to ASCII case -/

theorem lowerByte_of_ascii {c : Char} (ascii : c.utf8Size = 1) :
    lowerByte c.toUInt8 = c.toLower.toUInt8 := by
  have small : c.toUInt8 < 0x80 := UInt8.lt_iff_toNat_lt.mpr (by
    rw [toNat_toUInt8 ascii]
    exact Nat.lt_succ_of_le (toNat_le_of_ascii ascii))
  rw [lowerByte, if_pos small, toNat_toUInt8 ascii, Char.ofNat_toNat]

theorem utf8Size_toLower (c : Char) : c.toLower.utf8Size = c.utf8Size := by
  by_cases upper : c.isUpper = true
  · rw [utf8Size_of_isWord (Text.isWord_of_isAlpha (.inl upper)),
      utf8Size_of_isWord (Text.isWord_of_isAlpha (.inr (Text.isLower_toLower upper)))]
  · rw [Text.toLower_of_not_isUpper upper]

/-- Only a letter is the small form of another character. -/
theorem toLower_eq_iff {c d : Char} (plain : d.isLower = false) (fixed : d.toLower = d) :
    d.toLower = c.toLower ↔ d = c := by
  refine ⟨fun same => ?_, congrArg Char.toLower⟩
  by_cases upper : c.isUpper = true
  · rw [← fixed, same, Text.isLower_toLower upper] at plain
    cases plain
  · rw [← fixed, same]
    exact Text.toLower_of_not_isUpper upper

theorem utf8Length_lower (text : Text) : utf8Length (Text.lower text) = utf8Length text := by
  induction text with
  | nil => rfl
  | cons c text ih =>
    rw [Text.lower, List.map_cons, ← Text.lower, utf8Length_cons, utf8Length_cons,
      utf8Size_toLower, ih]

theorem utf8Length_of_sameName {first second : Text} (same : Text.sameName first second = true) :
    utf8Length first = utf8Length second := by
  rw [← utf8Length_lower, Text.sameName_iff.mp same, utf8Length_lower]

theorem lowerByte_inj {c d : Char} (first : c.utf8Size = 1) (second : d.utf8Size = 1) :
    lowerByte c.toUInt8 = lowerByte d.toUInt8 ↔ c.toLower = d.toLower := by
  rw [lowerByte_of_ascii first, lowerByte_of_ascii second]
  refine ⟨fun same => ?_, congrArg Char.toUInt8⟩
  have code := congrArg UInt8.toNat same
  rw [toNat_toUInt8 (by rw [utf8Size_toLower, first]),
    toNat_toUInt8 (by rw [utf8Size_toLower, second])] at code
  exact Char.toNat_inj.mp code

/-- A pattern without letters is stripped as it is written. -/
theorem stripIgnoringCase?_of_uncased {pattern : Text}
    (uncased : ∀ d ∈ pattern, d.isLower = false ∧ d.toLower = d) (text : Text) :
    Text.stripIgnoringCase? pattern text = Text.strip? pattern text := by
  induction pattern generalizing text with
  | nil => simp only [Text.stripIgnoringCase?, Text.strip?]
  | cons p pattern ih =>
    cases text with
    | nil => rfl
    | cons c text =>
      obtain ⟨plain, fixed⟩ := uncased p List.mem_cons_self
      have later := ih (fun d member => uncased d (List.mem_cons_of_mem _ member)) text
      simp only [Text.stripIgnoringCase?, Text.strip?, toLower_eq_iff plain fixed, later]

theorem lowerByte_of_le {b : UInt8} (large : 128 ≤ b.toNat) : lowerByte b = b :=
  if_neg fun small => Nat.not_lt.mpr large (UInt8.lt_iff_toNat_lt.mp small)

theorem lowerByte_ne {p : Char} (narrow : p.utf8Size = 1) {b : UInt8} (large : 128 ≤ b.toNat) :
    lowerByte b ≠ lowerByte p.toUInt8 := by
  have lowered : p.toLower.utf8Size = 1 := by rw [utf8Size_toLower, narrow]
  have small := toNat_le_of_ascii lowered
  rw [lowerByte_of_le large, lowerByte_of_ascii narrow]
  rintro rfl
  rw [toNat_toUInt8 lowered] at large
  omega

/-- A window of the bytes of a text spells a name just if the text starts with a spelling of it. -/
theorem take_utf8_iff {name : Text} (ascii : ∀ c ∈ name, c.utf8Size = 1) (rest : Text) :
    ((utf8 rest).take (utf8Length name)).map lowerByte = (utf8 name).map lowerByte ↔
      (Text.stripIgnoringCase? name rest).isSome = true := by
  induction name generalizing rest with
  | nil => simp [Text.stripIgnoringCase?]
  | cons p name ih =>
    have narrow := ascii p List.mem_cons_self
    have later := ih fun d member => ascii d (List.mem_cons_of_mem _ member)
    have pattern : utf8 (p :: name) = p.toUInt8 :: utf8 name := by
      rw [utf8_cons, utf8EncodeChar_of_ascii narrow, List.singleton_append]
    cases rest with
    | nil => simp [Text.stripIgnoringCase?, pattern]
    | cons c rest =>
      rw [utf8Length_cons, narrow, Nat.add_comm 1, pattern, List.map_cons, Text.stripIgnoringCase?]
      by_cases single : c.utf8Size = 1
      · rw [utf8_cons, utf8EncodeChar_of_ascii single, List.singleton_append, List.take_succ_cons,
          List.map_cons, List.cons.injEq, lowerByte_inj single narrow, eq_comm, later]
        split <;> simp [*]
      · obtain ⟨b, bytes, encoded⟩ := exists_utf8EncodeChar c
        have large : 128 ≤ b.toNat := le_of_mem_utf8EncodeChar single (by simp [encoded])
        have different : p.toLower ≠ c.toLower := fun same => single (by
          rw [← utf8Size_toLower, ← same, utf8Size_toLower, narrow])
        rw [utf8_cons, encoded, List.cons_append, List.take_succ_cons, List.map_cons,
          List.cons.injEq, if_neg different]
        simp [lowerByte_ne narrow large]

/-! ## What the tests find -/

section Place
variable {text rest : Text} {position : Nat} (place : At text position rest)

include place

theorem At.matchesAt_eq {name : Text} (ascii : ∀ c ∈ name, c.utf8Size = 1) :
    matchesAt (utf8 name) position (utf8 text) = (Text.stripIgnoringCase? name rest).isSome := by
  rw [Bool.eq_iff_iff, ← take_utf8_iff ascii, matchesAt, place.drop_eq, Bool.and_eq_true,
    beq_iff_eq, length_utf8, length_utf8, place.length_eq, decide_eq_true_eq,
    Nat.add_le_add_iff_left]
  refine ⟨And.right, fun same => ⟨?_, same⟩⟩
  have lengths := congrArg List.length same
  rw [List.length_map, List.length_map, List.length_take, length_utf8, length_utf8] at lengths
  omega

/-- Behind a spelling of a name stands what is left when the name is stripped. -/
theorem At.stripped {name after : Text}
    (found : Text.stripIgnoringCase? name rest = some after) :
    At text (position + utf8Length name) after := by
  obtain ⟨spelling, same, rfl⟩ := Text.stripIgnoringCase?_eq_some_iff.mp found
  rw [utf8Length_of_sameName same]
  exact place.advance

end Place

section Tests
variable {name text rest : Text} {position : Nat} (word : ∀ c ∈ name, Text.isWord c = true)

include word

theorem openerAt_eq (place : At text position rest) :
    openerAt name position (utf8 text) = Markup.startsOpener name rest := by
  have ascii : ∀ c ∈ name, c.utf8Size = 1 := fun c member => utf8Size_of_isWord (word c member)
  rw [openerAt, place.any_getElem? (readsAs_beq rfl)]
  cases rest with
  | nil => rfl
  | cons c rest =>
    by_cases first : c = '<'
    · subst first
      have inside := place.tail rfl
      rw [inside.matchesAt_eq ascii]
      cases found : Text.stripIgnoringCase? name rest with
      | none => simp [Markup.startsOpener, found]
      | some after =>
        rw [(inside.stripped found).any_getElem? readsAs_isWordByte]
        cases after <;> simp [Markup.startsOpener, found]
    · simp [Markup.startsOpener_of_ne first, first]

theorem closerAt_eq (place : At text position rest) :
    closerAt name position (utf8 text) = Markup.startsCloser name rest := by
  have ascii : ∀ c ∈ name, c.utf8Size = 1 := fun c member => utf8Size_of_isWord (word c member)
  have signs : ∀ c ∈ ['<', '/'], c.utf8Size = 1 :=
    List.forall_mem_cons.mpr ⟨rfl, List.forall_mem_singleton.mpr rfl⟩
  have uncased : ∀ c ∈ ['<', '/'], c.isLower = false ∧ c.toLower = c :=
    List.forall_mem_cons.mpr ⟨⟨rfl, rfl⟩, List.forall_mem_singleton.mpr ⟨rfl, rfl⟩⟩
  rw [closerAt, place.matchesAt_eq signs, stripIgnoringCase?_of_uncased uncased]
  cases marks : Text.strip? ['<', '/'] rest with
  | none =>
    have absent : Markup.startsCloser name rest = false := by
      rw [← Bool.not_eq_true, Markup.startsCloser_iff]
      rintro ⟨spelling, after, _, whole⟩
      exact Text.strip?_eq_none_iff.mp marks ⟨spelling ++ ['>'] ++ after, whole.symm⟩
    rw [absent, Option.isSome_none, Bool.false_and, Bool.false_and]
  | some inside =>
    rw [Text.strip?_eq_some_iff.mp marks] at place ⊢
    have behind := place.advance
    rw [show utf8Length ['<', '/'] = 2 from rfl] at behind
    rw [behind.matchesAt_eq ascii]
    cases found : Text.stripIgnoringCase? name inside with
    | none => simp [Markup.startsCloser, found]
    | some after =>
      rw [(behind.stripped found).any_getElem? (readsAs_beq rfl)]
      cases after with
      | nil => simp [Markup.startsCloser, found]
      | cons c after =>
        by_cases last : c = '>'
        · simp [Markup.startsCloser, found, last]
        · simp [Markup.startsCloser, found, last]

end Tests

/-! ## Counting -/

section Count
variable {text : Text} {test : Nat → Bool} {starts : Text → Bool} {count : Text → Nat}

/-- A test that passes only at ASCII bytes counts positions as the test of what stands there counts
characters: nothing is counted inside of a character. -/
theorem countP_range'
    (agrees : ∀ position rest, At text position rest → test position = starts rest)
    (ascii : ∀ position b, (utf8 text)[position]? = some b → 128 ≤ b.toNat → test position = false)
    (empty : count [] = 0)
    (step : ∀ c rest, count (c :: rest) = (if starts (c :: rest) then 1 else 0) + count rest)
    {position : Nat} {rest : Text} (place : At text position rest) :
    (List.range' position (utf8Length rest)).countP test = count rest := by
  induction rest generalizing position with
  | nil => simp [empty]
  | cons c rest ih =>
    have later := ih place.next
    have first : (List.range' position c.utf8Size).countP test =
        if starts (c :: rest) then 1 else 0 := by
      rw [← agrees position _ place]
      by_cases narrow : c.utf8Size = 1
      · simp [narrow, List.countP_cons]
      · have fails (inside : Nat) (behind : position ≤ inside)
            (ahead : inside < position + c.utf8Size) : test inside = false := by
          obtain ⟨b, member, read⟩ := place.exists_getElem? behind ahead
          exact ascii inside b read (le_of_mem_utf8EncodeChar narrow member)
        have positive := c.utf8Size_pos
        rw [fails position (Nat.le_refl _) (by omega), List.countP_eq_zero.mpr]
        · rfl
        · intro inside member
          obtain ⟨behind, ahead⟩ := List.mem_range'_1.mp member
          simp [fails inside behind ahead]
    rw [utf8Length_cons, ← List.range'_append_1, List.countP_append, later, step, first]

end Count

theorem openerAt_of_le {name : Text} {bytes : Bytes} {position : Nat} {b : UInt8}
    (read : bytes[position]? = some b) (large : 128 ≤ b.toNat) :
    openerAt name position bytes = false := by
  have other : b ≠ '<'.toUInt8 := by
    rintro rfl
    exact absurd large (by decide)
  simp [openerAt, read, other]

theorem closerAt_of_le {name : Text} {bytes : Bytes} {position : Nat} {b : UInt8}
    (read : bytes[position]? = some b) (large : 128 ≤ b.toNat) :
    closerAt name position bytes = false := by
  have other : matchesAt (utf8 ['<', '/']) position bytes = false := by
    rw [← Bool.not_eq_true]
    intro same
    simp only [matchesAt, Bool.and_eq_true, beq_iff_eq] at same
    have window : (bytes.drop position).head? = some b := by rw [List.head?_drop, read]
    obtain ⟨rest, cut⟩ := List.head?_eq_some_iff.mp window
    have first := congrArg List.head? same.2
    rw [cut] at first
    exact lowerByte_ne (p := '<') rfl large (Option.some.inj first)
  rw [closerAt, other, Bool.false_and, Bool.false_and]

section Close
variable {name : Text} (word : ∀ c ∈ name, Text.isWord c = true) (text : Text)

include word

theorem countOpeners_eq : countOpeners name text = Markup.countOpeners name text := by
  rw [countOpeners, List.range_eq_range']
  exact countP_range' (fun _ _ place => openerAt_eq word place) (fun _ _ => openerAt_of_le) rfl
    (fun _ _ => rfl) (At.here text)

theorem countClosers_eq : countClosers name text = Markup.countClosers name text := by
  rw [countClosers, List.range_eq_range']
  exact countP_range' (fun _ _ place => closerAt_eq word place) (fun _ _ => closerAt_of_le) rfl
    (fun _ _ => rfl) (At.here text)

theorem closeUnmatched_eq : closeUnmatched name text = Markup.closeUnmatched name text := by
  rw [closeUnmatched, countOpeners_eq word, countClosers_eq word, Markup.closeUnmatched]

end Close

/-! ## Tags that close themselves -/

section SelfClosing
variable {text area rest : Text} {nameEnd : Nat}

theorem selfClosing_nil (bytes : Bytes) : selfClosing nameEnd nameEnd bytes = some false := by
  have absent : (subtract? nameEnd 1).filter (nameEnd ≤ ·) = none := by
    rw [subtract?]
    split
    · rw [Option.filter_some, if_neg]
      simp only [decide_eq_true_eq]
      omega
    · rfl
  rw [selfClosing, absent]

theorem selfClosing_concat {c : Char} (place : At text nameEnd (area ++ c :: rest)) :
    selfClosing nameEnd (nameEnd + utf8Length (area ++ [c])) (utf8 text) =
      some (c == '/' && (area.isEmpty || area.getLast?.any Text.isSpace)) := by
  have positive := c.utf8Size_pos
  have slash : (subtract? (nameEnd + utf8Length (area ++ [c])) 1).filter (nameEnd ≤ ·) =
      some (nameEnd + utf8Length area + (c.utf8Size - 1)) := by
    have total : nameEnd + utf8Length (area ++ [c]) =
        nameEnd + utf8Length area + (c.utf8Size - 1) + 1 := by
      rw [utf8Length_append, utf8Length_cons, utf8Length_nil]
      omega
    rw [total, subtract?_add, Option.filter_some, if_pos]
    simp only [decide_eq_true_eq]
    omega
  rw [selfClosing, slash]
  dsimp only
  rw [place.advance.any_getElem?_within (readsAs_beq (c := '/') rfl) (Nat.le_add_right ..)
    (by omega)]
  by_cases mark : c = '/'
  · subst mark
    rw [show '/'.utf8Size - 1 = 0 from rfl, Nat.add_zero, beq_self_eq_true, if_pos rfl]
    rcases List.eq_nil_or_concat area with rfl | ⟨init, d, rfl⟩
    · simp
    · rw [List.concat_eq_append] at place ⊢
      have before : At text (nameEnd + utf8Length init) (d :: '/' :: rest) := by
        rw [List.append_assoc] at place
        exact place.advance
      have positive := d.utf8Size_pos
      have total : nameEnd + utf8Length (init ++ [d]) =
          nameEnd + utf8Length init + (d.utf8Size - 1) + 1 := by
        rw [utf8Length_append, utf8Length_cons, utf8Length_nil]
        omega
      rw [if_neg (by omega), total, subtract?_add, Option.map_some,
        before.any_getElem?_within readsAs_isSpaceByte (Nat.le_add_right ..) (by omega)]
      simp
  · simp [mark]

/-- The area between the name and the `>` decides whether a tag closes itself. -/
theorem At.selfClosing_eq (place : At text nameEnd (area ++ rest)) :
    selfClosing nameEnd (nameEnd + utf8Length area) (utf8 text) =
      some (Markup.closesItself area) := by
  rcases List.eq_nil_or_concat area with rfl | ⟨init, c, rfl⟩
  · exact selfClosing_nil _
  · rw [List.concat_eq_append, List.append_assoc, List.singleton_append] at place
    rw [List.concat_eq_append, selfClosing_concat place, Markup.closesItself, List.reverse_append,
      List.reverse_singleton, List.singleton_append, ← List.head?_reverse]
    by_cases mark : c = '/'
    · subst mark
      cases reversed : init.reverse with
      | nil => simp [List.reverse_eq_nil_iff.mp reversed]
      | cons d back =>
        have inhabited : init ≠ [] := by
          rintro rfl
          cases reversed
        simp [inhabited]
    · simp [mark]

end SelfClosing

end TagQuery.Offset
