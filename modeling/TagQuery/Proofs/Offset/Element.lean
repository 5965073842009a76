import TagQuery.Markup.Element
import TagQuery.Proofs.Markup.AttributeReading
import TagQuery.Proofs.Offset.Tag

/-!
# Elements at byte offsets

An element read off the bytes of a slice: the name, the attributes and the inner text are cut at
positions that are found byte by byte. `fromSlice_eq` says that each of these cuts exists, for any
text whatever, and that the element is the one of `Element.ofSlice?`.

The position of a reader of attributes may lie behind the end, after a quotation mark without its
partner. It reads nothing there, so this is the one place where a position is off the boundaries.
-/

namespace TagQuery.Offset

open Text (utf8 utf8Length)

/-! ## Reading attributes -/

/-- Bytes of attribute names. -/
def isNameByte : UInt8 → Bool := onAscii Attributes.isNameChar

/-- Bytes of quotation marks. -/
def isQuoteByte (b : UInt8) : Bool := b == '"'.toUInt8 || b == '\''.toUInt8

/-- The position behind the white space at a position. -/
def skipSpace (position : Nat) (bytes : Bytes) : Nat :=
  position + ((bytes.drop position).takeWhile isSpaceByte).length

/-- Reads a value at a position, and where it ends. -/
def readValue (void : Bool) (position : Nat) (head : Text) : Option (Text × Nat) :=
  match (utf8 head)[position]?.filter isQuoteByte with
  | some quote => do
    let stop := (findByte quote (position + 1) (utf8 head)).getD (utf8Length head)
    let value ← slice? (position + 1) stop head
    return (value, stop + 1)
  | none => do
    let bytes ← bytesFrom? position (utf8 head)
    let stop := position + (bytes.takeWhile (!isSpaceByte ·)).length
    let value ← slice? position stop head
    if void && stop == utf8Length head && value.getLast? == some '/' then
      return (value.dropLast, stop)
    else return (value, stop)

/-- Reads attributes from a position on, in a number of steps. -/
def attributesFrom (void : Bool) (head : Text) : Nat → Nat → Attributes → Option Attributes
  | 0, _, _ => none
  | steps + 1, position, attributes =>
    if position < utf8Length head then do
      let bytes ← bytesFrom? position (utf8 head)
      let length := (bytes.takeWhile isNameByte).length
      if length = 0 then do
        let rest ← from? position head
        attributesFrom void head steps (position + rest.head?.elim 1 Char.utf8Size) attributes
      else do
        let name ← slice? position (position + length) head
        let assigned := skipSpace (position + length) (utf8 head)
        if (utf8 head)[assigned]?.any (· == '='.toUInt8) then do
          let (value, next) ← readValue void (skipSpace (assigned + 1) (utf8 head)) head
          attributesFrom void head steps next (attributes.insert name (Text.trim value))
        else attributesFrom void head steps assigned (attributes.insert name [])
    else some attributes

/-- The attributes of an opening tag, given what stands between its name and its `>`. -/
def parseAttributes (void : Bool) (head : Text) : Option Attributes :=
  attributesFrom void head (utf8Length head + 1) 0 ∅

/-! ## Reading an element -/

/-- What stands between the `>` of the opening tag and the last closing tag behind it. -/
def innerText? (openEnd? : Option Nat) (slice : Text) : Option Text :=
  match openEnd?, (Text.beforeLast? ['<', '/'] slice).map utf8Length with
  | some openEnd, some close =>
    if openEnd < close then slice? (openEnd + 1) close slice else some []
  | _, _ => some []

/-- The element of a slice. -/
def fromSlice (slice : Text) : Option (Option Element) :=
  match findByte '<'.toUInt8 0 (utf8 slice) with
  | none => some none
  | some start => do
    let name ← wordRun (start + 1) slice
    if name.isEmpty then return none
    else do
      let openEnd? := findByte '>'.toUInt8 start (utf8 slice)
      let head ← slice? (start + 1 + utf8Length name) (openEnd?.getD (utf8Length slice)) slice
      let attributes ← parseAttributes (Category.ofName name == .void) head
      let innerText ← innerText? openEnd? slice
      return some ⟨name, attributes, closeUnmatched name innerText⟩

/-! ## Where attributes are read -/

theorem utf8Size_of_isNameChar {c : Char} (named : Attributes.isNameChar c = true) :
    c.utf8Size = 1 := by
  simp only [Attributes.isNameChar, Bool.or_eq_true, beq_iff_eq] at named
  rcases named with ((word | rfl) | rfl) | rfl
  · exact utf8Size_of_isWord word
  all_goals rfl

theorem readsAs_isNameByte : ReadsAs isNameByte Attributes.isNameChar :=
  readsAs_onAscii fun _ => utf8Size_of_isNameChar

theorem At.skipSpace_eq {text rest : Text} {position : Nat} (place : At text position rest) :
    At text (skipSpace position (utf8 text)) (Text.skipSpace rest) := by
  rw [skipSpace, place.drop_eq, takeWhile_utf8 readsAs_isSpaceByte, length_utf8]
  have split : rest = rest.takeWhile Text.isSpace ++ Text.skipSpace rest :=
    List.takeWhile_append_dropWhile.symm
  rw [split] at place
  exact place.advance

/-- A position on a boundary with what stands there, or any position behind the end. -/
def AtOrBehind (text : Text) (position : Nat) (rest : Text) : Prop :=
  At text position rest ∨ utf8Length text ≤ position ∧ rest = []

theorem readsAs_isQuoteByte : ReadsAs isQuoteByte fun c => c == '"' || c == '\'' :=
  (readsAs_beq rfl).or (readsAs_beq rfl)

section ReadValue
variable {text rest : Text} {position : Nat} (void : Bool)

/-- A quoted value ends at the partner of its quotation mark, or at the end. -/
theorem readValue_of_quote {quote : Char} (ascii : quote.utf8Size = 1)
    (marked : isQuoteByte quote.toUInt8 = true) (place : At text position (quote :: rest)) :
    ∃ next, readValue void position text = some (rest.takeWhile (· != quote), next) ∧
      AtOrBehind text next ((rest.dropWhile (· != quote)).drop 1) := by
  have inside := place.tail ascii
  have first : (utf8 text)[position]?.filter isQuoteByte = some quote.toUInt8 := by
    rw [place.getElem?_eq, utf8_cons, utf8EncodeChar_of_ascii ascii, List.singleton_append,
      List.head?_cons, Option.filter_some, if_pos marked]
  rw [readValue, first]
  dsimp only
  by_cases closed : quote ∈ rest
  · obtain ⟨before, back, rfl, absent⟩ := List.eq_append_cons_of_mem closed
    have run := Text.all_bne_of_notMem absent
    have stop : ∀ c ∈ (quote :: back).head?, (c != quote) = false := by simp
    rw [inside.findByte_eq_some ascii absent, Option.getD_some, inside.slice?_eq rfl,
      Text.takeWhile_run run stop, Text.dropWhile_run run stop]
    exact ⟨_, rfl, .inl (inside.advance.tail ascii)⟩
  · have run := Text.all_bne_of_notMem closed
    have all : rest.takeWhile (· != quote) = rest := List.takeWhile_eq_self_iff.mpr run
    have none : rest.dropWhile (· != quote) = [] := List.dropWhile_eq_nil_iff.mpr run
    rw [inside.findByte_eq_none ascii closed, Option.getD_none, inside.slice?_end, all, none]
    exact ⟨_, rfl, .inr ⟨Nat.le_succ _, rfl⟩⟩

/-- A value without a quotation mark ends at white space. -/
theorem readValue_of_plain (plain : ∀ c ∈ rest.head?, c ≠ '"' ∧ c ≠ '\'')
    (place : At text position rest) :
    ∃ next, readValue void position text = some ((Attributes.readValue void rest).1, next) ∧
      At text next (Attributes.readValue void rest).2 := by
  have first : (utf8 text)[position]?.filter isQuoteByte = none := by
    have unquoted : (utf8 text)[position]?.any isQuoteByte = false := by
      rw [place.any_getElem? readsAs_isQuoteByte]
      cases rest with
      | nil => rfl
      | cons c rest => simpa using plain c rfl
    cases read : (utf8 text)[position]? with
    | none => rfl
    | some b =>
      rw [read, Option.any_some] at unquoted
      rw [Option.filter_some, unquoted, if_neg Bool.false_ne_true]
  have read : Attributes.readValue void rest =
      let value := rest.takeWhile (!Text.isSpace ·)
      let after := rest.dropWhile (!Text.isSpace ·)
      if void && after.isEmpty && value.getLast? == some '/' then (value.dropLast, after)
      else (value, after) := by
    cases rest with
    | nil => simp [Attributes.readValue]
    | cons c rest => rw [Attributes.readValue, if_neg (not_or.mpr (plain c rfl))]
  obtain ⟨value, after, rfl, inside, stop⟩ := Text.exists_run (!Text.isSpace ·) rest
  have ends : (position + utf8Length value == utf8Length text) = after.isEmpty := by
    rw [Bool.eq_iff_iff, beq_iff_eq, List.isEmpty_iff, place.length_eq, utf8Length_append,
      ← utf8Length_eq_zero_iff]
    omega
  rw [Text.takeWhile_run inside stop, Text.dropWhile_run inside stop] at read
  rw [readValue, first, place.bytesFrom?_eq, read]
  dsimp only [Option.bind_eq_bind, Option.bind_some]
  rw [takeWhile_utf8 readsAs_isSpaceByte.not, Text.takeWhile_run inside stop, length_utf8,
    place.slice?_eq rfl]
  dsimp only [Option.bind_some]
  rw [ends]
  split
  · exact ⟨_, rfl, place.advance⟩
  · exact ⟨_, rfl, place.advance⟩

theorem readValue_eq (place : At text position rest) :
    ∃ next, readValue void position text = some ((Attributes.readValue void rest).1, next) ∧
      AtOrBehind text next (Attributes.readValue void rest).2 := by
  by_cases plain : ∀ c ∈ rest.head?, c ≠ '"' ∧ c ≠ '\''
  · obtain ⟨next, read, behind⟩ := readValue_of_plain void plain place
    exact ⟨next, read, .inl behind⟩
  · obtain ⟨c, after, rfl, marked⟩ : ∃ c after, rest = c :: after ∧ (c = '"' ∨ c = '\'') := by
      cases rest with
      | nil => simp at plain
      | cons c after => exact ⟨c, after, rfl, by simpa [or_iff_not_imp_left] using plain⟩
    rw [Attributes.readValue, if_pos marked]
    rcases marked with rfl | rfl
    · exact readValue_of_quote void rfl rfl place
    · exact readValue_of_quote void rfl rfl place

end ReadValue

section AttributesFrom
variable {text rest : Text} {steps position : Nat} (void : Bool) (attributes : Attributes)

theorem attributesFrom_of_le (ended : utf8Length text ≤ position) :
    attributesFrom void text (steps + 1) position attributes = some attributes := by
  rw [attributesFrom, if_neg (Nat.not_lt.mpr ended)]

/-- A character that no name starts with is skipped. -/
theorem attributesFrom_of_not_isNameChar {c : Char} (other : Attributes.isNameChar c = false)
    (place : At text position (c :: rest)) :
    attributesFrom void text (steps + 1) position attributes =
      attributesFrom void text steps (position + c.utf8Size) attributes := by
  have empty : (utf8 (c :: rest)).takeWhile isNameByte = [] := by
    rw [takeWhile_utf8 readsAs_isNameByte, List.takeWhile_cons_of_neg (by simp [other]), utf8_nil]
  rw [attributesFrom, if_pos place.lt_length, place.bytesFrom?_eq, place.from?_eq]
  dsimp only [Option.bind_eq_bind, Option.bind_some]
  rw [empty]
  rfl

/-- A name is read with the value that is assigned to it. -/
theorem attributesFrom_of_isNameChar {c : Char} (named : Attributes.isNameChar c = true)
    (place : At text position (c :: rest)) :
    ∃ next,
      attributesFrom void text (steps + 1) position attributes =
        attributesFrom void text steps next
          (attributes.insert (c :: rest.takeWhile Attributes.isNameChar) (Text.trim
            (Attributes.readAssignment void (rest.dropWhile Attributes.isNameChar)).1)) ∧
      AtOrBehind text next
        (Attributes.readAssignment void (rest.dropWhile Attributes.isNameChar)).2 := by
  have run : (utf8 (c :: rest)).takeWhile isNameByte =
      utf8 (c :: rest.takeWhile Attributes.isNameChar) := by
    rw [takeWhile_utf8 readsAs_isNameByte, List.takeWhile_cons_of_pos named]
  have split : c :: rest = (c :: rest.takeWhile Attributes.isNameChar) ++
      rest.dropWhile Attributes.isNameChar := by
    rw [List.cons_append, List.takeWhile_append_dropWhile]
  have inhabited : utf8Length (c :: rest.takeWhile Attributes.isNameChar) ≠ 0 :=
    mt utf8Length_eq_zero_iff.mp (List.cons_ne_nil _ _)
  have cut : At text position ((c :: rest.takeWhile Attributes.isNameChar) ++
      rest.dropWhile Attributes.isNameChar) := split ▸ place
  have assigned := cut.advance.skipSpace_eq
  rw [attributesFrom, if_pos place.lt_length, place.bytesFrom?_eq]
  dsimp only [Option.bind_eq_bind, Option.bind_some]
  rw [run, length_utf8, if_neg inhabited, cut.slice?_eq rfl]
  dsimp only [Option.bind_some]
  rw [assigned.any_getElem? (readsAs_beq rfl)]
  rcases Attributes.equals_or_other (rest.dropWhile Attributes.isNameChar) with
    ⟨value, found⟩ | absent
  · have same := Attributes.readAssignment_of_equals void found
    rw [found] at assigned
    obtain ⟨next, read, behind⟩ := readValue_eq void (assigned.tail rfl).skipSpace_eq
    rw [found, List.head?_cons, Option.any_some, beq_self_eq_true, if_pos rfl, read, same]
    exact ⟨next, rfl, behind⟩
  · rw [absent, if_neg Bool.false_ne_true, Attributes.readAssignment_of_other void absent]
    exact ⟨_, rfl, .inl assigned⟩

/-- Each step reads at least a character. -/
theorem attributesFrom_eq (enough : rest.length < steps) (place : AtOrBehind text position rest) :
    attributesFrom void text steps position attributes =
      some ((Attributes.written void rest).foldl
        (fun attributes entry => attributes.insert entry.name entry.value) attributes) := by
  fun_induction Attributes.written void rest generalizing position attributes steps with
  | case1 =>
    obtain ⟨steps, rfl⟩ := Nat.exists_eq_add_one.mpr (Nat.zero_lt_of_lt enough)
    apply attributesFrom_of_le
    rcases place with place | ⟨ended, _⟩
    · exact Nat.le_of_eq place.length_eq
    · exact ended
  | case2 c rest named assigned =>
    rename_i ih
    obtain ⟨steps, rfl⟩ := Nat.exists_eq_add_one.mpr (Nat.zero_lt_of_lt enough)
    have shorter : assigned.2.length ≤ rest.length :=
      Nat.le_trans (Attributes.readAssignment_length_le ..) (List.dropWhile_suffix _).length_le
    have fewer := Nat.lt_of_le_of_lt shorter (Nat.lt_of_succ_lt_succ enough)
    rcases place with place | ⟨_, ended⟩
    · obtain ⟨next, read, behind⟩ := attributesFrom_of_isNameChar void attributes named place
      rw [read, ih _ fewer behind, List.foldl_cons]
    · cases ended
  | case3 c rest other ih =>
    obtain ⟨steps, rfl⟩ := Nat.exists_eq_add_one.mpr (Nat.zero_lt_of_lt enough)
    rcases place with place | ⟨_, ended⟩
    · rw [attributesFrom_of_not_isNameChar void attributes (Bool.not_eq_true _ ▸ other) place]
      exact ih _ (Nat.lt_of_succ_lt_succ enough) (.inl place.next)
    · cases ended

end AttributesFrom

theorem parseAttributes_eq (void : Bool) (head : Text) :
    parseAttributes void head = some (Attributes.ofTag void head) :=
  attributesFrom_eq void ∅ (Nat.lt_succ_of_le (length_le_utf8Length head)) (.inl (At.here head))

/-! ## The element of any slice -/

/-- The inner text is cut out of what follows the opening tag: a closing tag before its `>` ends
nothing. -/
theorem innerText?_eq (opening inside : Text) :
    innerText? (some (utf8Length opening)) (opening ++ '>' :: inside) =
      some ((Text.beforeLast? ['<', '/'] inside).getD []) := by
  have whole : opening ++ '>' :: inside = (opening ++ ['>']) ++ inside := by simp
  cases last : Text.beforeLast? ['<', '/'] inside with
  | some body =>
    obtain ⟨closing, rfl⟩ := Text.prefix_of_beforeLast? last
    have place := (At.append opening ('>' :: (body ++ closing))).tail rfl
    have close : utf8Length (opening ++ ['>'] ++ body) =
        utf8Length opening + 1 + utf8Length body := by
      simp [Nat.add_assoc]
    unfold innerText?
    rw [whole, Text.beforeLast?_append_of_some last, ← whole, Option.map_some]
    dsimp only
    rw [if_pos (by omega), place.slice?_eq close, Option.getD_some]
  | none =>
    unfold innerText?
    cases earlier : Text.beforeLast? ['<', '/'] (opening ++ '>' :: inside) with
    | none => rfl
    | some before =>
      obtain ⟨more, inhabited, split⟩ := Text.exists_append_of_beforeLast? last (whole ▸ earlier)
      have lengths := congrArg utf8Length split
      have positive := mt utf8Length_eq_zero_iff.mp inhabited
      simp only [utf8Length_append, utf8Length_cons, utf8Length_nil, utf8Size_greater] at lengths
      rw [Option.map_some]
      dsimp only
      rw [if_neg (by omega), Option.getD_none]

section FromSlice
variable {before name tail : Text} (absent : '<' ∉ before)
  (word : ∀ c ∈ name, Text.isWord c = true) (ends : ∀ c ∈ tail.head?, Text.isWord c = false)

include word

/-- What is read of a tag without the `>` that ends it reaches to the end of the slice. -/
theorem openEnd_cases {slice : Text} (whole : slice = before ++ '<' :: (name ++ tail)) :
    ∃ openEnd?, findByte '>'.toUInt8 (utf8Length before) (utf8 slice) = openEnd? ∧
      slice? (utf8Length before + 1 + utf8Length name) (openEnd?.getD (utf8Length slice)) slice =
        some (tail.takeWhile (· != '>')) ∧
      innerText? openEnd? slice =
        some ((Text.beforeLast? ['<', '/'] ((tail.dropWhile (· != '>')).drop 1)).getD []) := by
  have start := At.append before ('<' :: (name ++ tail))
  have area := (start.tail rfl).advance
  rw [← whole] at start area
  have unclosed : '>' ∉ '<' :: name := by
    simpa using Text.notMem_of_word word (by decide)
  by_cases closed : '>' ∈ tail
  · obtain ⟨attributes, inside, rfl, first⟩ := List.eq_append_cons_of_mem closed
    have run := Text.all_bne_of_notMem first
    have stop : ∀ c ∈ ('>' :: inside).head?, (c != '>') = false := by simp
    have opening : slice = (before ++ '<' :: (name ++ attributes)) ++ '>' :: inside := by
      simp [whole]
    have place : At slice (utf8Length before) (('<' :: (name ++ attributes)) ++ '>' :: inside) := by
      simpa using start
    have outside : '>' ∉ '<' :: (name ++ attributes) := by
      rw [← List.cons_append, List.mem_append, not_or]
      exact ⟨unclosed, first⟩
    refine ⟨_, place.findByte_eq_some rfl outside, ?_, ?_⟩
    · rw [Option.getD_some, Text.takeWhile_run run stop]
      apply area.slice?_eq
      simp [Nat.add_assoc]
    · rw [← utf8Length_append, opening, innerText?_eq, Text.dropWhile_run run stop]
      rfl
  · have run := Text.all_bne_of_notMem closed
    have outside : '>' ∉ '<' :: (name ++ tail) := by
      rw [← List.cons_append, List.mem_append, not_or]
      exact ⟨unclosed, closed⟩
    refine ⟨_, start.findByte_eq_none rfl outside, ?_, ?_⟩
    · rw [Option.getD_none, area.slice?_end, List.takeWhile_eq_self_iff.mpr run]
    · rw [List.dropWhile_eq_nil_iff.mpr run]
      rfl

include absent ends

/-- The opening tag decides what is read. -/
theorem fromSlice_of_name (named : name ≠ []) :
    fromSlice (before ++ '<' :: (name ++ tail)) =
      some (some ⟨name,
        Attributes.ofTag (Category.ofName name == .void) (tail.takeWhile (· != '>')),
        Markup.closeUnmatched name
          ((Text.beforeLast? ['<', '/'] ((tail.dropWhile (· != '>')).drop 1)).getD [])⟩) := by
  obtain ⟨openEnd?, found, head, inner⟩ := openEnd_cases word
    (rfl : before ++ '<' :: (name ++ tail) = before ++ '<' :: (name ++ tail))
  have start := (At.append before ('<' :: (name ++ tail))).tail rfl
  rw [fromSlice, (At.here _).findByte_eq_some rfl absent, Nat.zero_add]
  dsimp only [Option.bind_eq_bind]
  rw [start.wordRun_eq, Text.takeWhile_run word ends, Option.bind_some,
    if_neg (by simpa using named), found, head, Option.bind_some, parseAttributes_eq,
    Option.bind_some, inner, Option.bind_some, closeUnmatched_eq word]
  rfl

end FromSlice

theorem fromSlice_eq (slice : Text) : fromSlice slice = some (Element.ofSlice? slice) := by
  by_cases tagged : '<' ∈ slice
  · obtain ⟨before, rest, rfl, absent⟩ := List.eq_append_cons_of_mem tagged
    obtain ⟨name, tail, rfl, word, ends⟩ := Text.exists_run Text.isWord rest
    have read :
        ((before ++ '<' :: (name ++ tail)).dropWhile (· != '<')).drop 1 = name ++ tail := by
      rw [Text.dropWhile_run (Text.all_bne_of_notMem absent) (by simp), List.drop_one,
        List.tail_cons]
    rw [Element.ofSlice?, read, Text.takeWhile_run word ends, List.drop_left]
    by_cases named : name = []
    · subst named
      have start := (At.append before ('<' :: ([] ++ tail))).tail rfl
      rw [fromSlice, (At.here _).findByte_eq_some rfl absent, Nat.zero_add]
      dsimp only [Option.bind_eq_bind]
      rw [start.wordRun_eq, Text.takeWhile_run word ends]
      rfl
    · rw [fromSlice_of_name absent word ends named]
      simp [named]
  · have empty : slice.dropWhile (· != '<') = [] :=
      List.dropWhile_eq_nil_iff.mpr (Text.all_bne_of_notMem tagged)
    rw [fromSlice, (At.here slice).findByte_eq_none rfl tagged, Element.ofSlice?, empty]
    rfl

end TagQuery.Offset
