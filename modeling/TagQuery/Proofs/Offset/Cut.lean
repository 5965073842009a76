import Mathlib.Data.List.TakeWhile
import TagQuery.Text.Utf8

/-!
# Texts at byte offsets

A reader that holds a text as UTF-8 counts in bytes, and its cuts are partial: there is no text
from one offset to another if the offsets are out of order, lie outside of the text or lie inside
a character. Here are such cuts, with `none` where there is nothing to cut, and the searches that
find offsets byte by byte.

`At text position rest` says that a position is on a boundary of the text and that `rest` is what
stands there. Everything that a reader does at a position follows from what stands there: a cut
exists and is the cut of the characters, and a test of bytes that reads ASCII only (`ReadsAs`)
finds what the test of characters finds.
-/

namespace TagQuery.Offset

open Text (utf8 utf8Length)

/-! ## Cuts -/

/-- The difference of two numbers, if there is one. -/
def subtract? (n m : Nat) : Option Nat := if m ≤ n then some (n - m) else none

/-- The bytes from a position on. -/
def bytesFrom? (position : Nat) (bytes : Bytes) : Option Bytes :=
  if position ≤ bytes.length then some (bytes.drop position) else none

/-- The bytes before a position. -/
def bytesUpTo? (position : Nat) (bytes : Bytes) : Option Bytes :=
  if position ≤ bytes.length then some (bytes.take position) else none

/-- The parts of a text before and after a position; none if the text is shorter or the position
is inside a character. -/
def splitAt? : Nat → Text → Option (Text × Text)
  | 0, text => some ([], text)
  | _ + 1, [] => none
  | position + 1, c :: text =>
    if c.utf8Size ≤ position + 1 then
      (splitAt? (position + 1 - c.utf8Size) text).map fun (front, back) => (c :: front, back)
    else none

/-- The text from a position on. -/
def from? (position : Nat) (text : Text) : Option Text := (splitAt? position text).map Prod.snd

/-- The text before a position. -/
def upTo? (position : Nat) (text : Text) : Option Text := (splitAt? position text).map Prod.fst

/-- The text between two positions. -/
def slice? (start stop : Nat) (text : Text) : Option Text :=
  if start ≤ stop then (upTo? stop text).bind (from? start) else none

theorem subtract?_eq_some_iff {n m difference : Nat} :
    subtract? n m = some difference ↔ n = difference + m := by
  unfold subtract?
  split
  · rw [Option.some.injEq]
    omega
  · constructor
    · intro absent
      cases absent
    · intro sum
      omega

theorem subtract?_add (n m : Nat) : subtract? (n + m) m = some n := subtract?_eq_some_iff.mpr rfl

/-! ## Lengths in bytes -/

@[simp] theorem utf8_nil : utf8 [] = [] := rfl

theorem utf8_cons (c : Char) (text : Text) :
    utf8 (c :: text) = String.utf8EncodeChar c ++ utf8 text := rfl

@[simp] theorem utf8_append (front back : Text) : utf8 (front ++ back) = utf8 front ++ utf8 back :=
  List.flatMap_append

@[simp] theorem length_utf8 (text : Text) : (utf8 text).length = utf8Length text := rfl

@[simp] theorem utf8Length_nil : utf8Length [] = 0 := rfl

@[simp] theorem utf8Length_cons (c : Char) (text : Text) :
    utf8Length (c :: text) = c.utf8Size + utf8Length text := by
  rw [utf8Length, utf8_cons, List.length_append, String.length_utf8EncodeChar, length_utf8]

theorem utf8Length_singleton (c : Char) : utf8Length [c] = c.utf8Size := by
  rw [utf8Length_cons, utf8Length_nil, Nat.add_zero]

@[simp] theorem utf8Size_less : '<'.utf8Size = 1 := rfl

@[simp] theorem utf8Size_greater : '>'.utf8Size = 1 := rfl

@[simp] theorem utf8Size_slash : '/'.utf8Size = 1 := rfl

@[simp] theorem utf8Length_append (front back : Text) :
    utf8Length (front ++ back) = utf8Length front + utf8Length back := by
  rw [utf8Length, utf8_append, List.length_append, length_utf8, length_utf8]

theorem utf8Length_mono {front text : Text} (starts : front <+: text) :
    utf8Length front ≤ utf8Length text := by
  obtain ⟨back, rfl⟩ := starts
  rw [utf8Length_append]
  exact Nat.le_add_right _ _

theorem length_le_utf8Length (text : Text) : text.length ≤ utf8Length text := by
  induction text with
  | nil => exact Nat.le_refl _
  | cons c text ih =>
    have positive := c.utf8Size_pos
    rw [List.length_cons, utf8Length_cons]
    omega

theorem utf8Length_eq_zero_iff {text : Text} : utf8Length text = 0 ↔ text = [] := by
  cases text with
  | nil => simp
  | cons c text => simp [c.utf8Size_pos.ne']

/-! ## What stands at a position -/

/-- A position on a boundary of a text, and what stands there. -/
def At (text : Text) (position : Nat) (rest : Text) : Prop :=
  ∃ front, text = front ++ rest ∧ position = utf8Length front

/-- A text is split only on a boundary. -/
theorem splitAt?_eq_some_iff {position : Nat} {text front back : Text} :
    splitAt? position text = some (front, back) ↔
      text = front ++ back ∧ position = utf8Length front := by
  have start (text front : Text) : splitAt? 0 text = some (front, back) ↔
      text = front ++ back ∧ 0 = utf8Length front := by
    rw [splitAt?, Option.some.injEq, Prod.mk.injEq, eq_comm (a := 0), utf8Length_eq_zero_iff]
    constructor
    · rintro ⟨rfl, rfl⟩
      exact ⟨rfl, rfl⟩
    · rintro ⟨rfl, rfl⟩
      exact ⟨rfl, rfl⟩
  induction text generalizing position front with
  | nil =>
    cases position with
    | zero => exact start [] front
    | succ position =>
      rw [splitAt?]
      constructor
      · intro found
        cases found
      · rintro ⟨whole, size⟩
        rw [(List.append_eq_nil_iff.mp whole.symm).1] at size
        cases size
  | cons c text ih =>
    have positive := c.utf8Size_pos
    cases position with
    | zero => exact start (c :: text) front
    | succ position =>
      rw [splitAt?]
      constructor
      · intro found
        split at found
        · obtain ⟨⟨inner, after⟩, cut, same⟩ := Option.map_eq_some_iff.mp found
          cases same
          obtain ⟨rfl, size⟩ := ih.mp cut
          rw [utf8Length_cons]
          exact ⟨rfl, by omega⟩
        · cases found
      · rintro ⟨whole, size⟩
        cases front with
        | nil => cases size
        | cons d front =>
          obtain ⟨rfl, rfl⟩ := List.cons.inj whole
          rw [utf8Length_cons] at size
          rw [if_pos (by omega), ih.mpr ⟨rfl, by omega⟩, Option.map_some]

theorem from?_eq_some_iff {position : Nat} {text rest : Text} :
    from? position text = some rest ↔ At text position rest := by
  rw [from?, Option.map_eq_some_iff]
  constructor
  · rintro ⟨⟨front, back⟩, cut, rfl⟩
    exact ⟨front, splitAt?_eq_some_iff.mp cut⟩
  · rintro ⟨front, place⟩
    exact ⟨(front, rest), splitAt?_eq_some_iff.mpr place, rfl⟩

theorem upTo?_eq_some_iff {position : Nat} {text front : Text} :
    upTo? position text = some front ↔ front <+: text ∧ position = utf8Length front := by
  rw [upTo?, Option.map_eq_some_iff]
  constructor
  · rintro ⟨⟨before, back⟩, cut, rfl⟩
    obtain ⟨whole, size⟩ := splitAt?_eq_some_iff.mp cut
    exact ⟨⟨back, whole.symm⟩, size⟩
  · rintro ⟨⟨back, whole⟩, size⟩
    exact ⟨(front, back), splitAt?_eq_some_iff.mpr ⟨whole.symm, size⟩, rfl⟩

/-- There is a text between two positions only if both are on boundaries, in their order. -/
theorem slice?_eq_some_iff {start stop : Nat} {text part : Text} :
    slice? start stop text = some part ↔
      ∃ back, At text start (part ++ back) ∧ stop = start + utf8Length part := by
  unfold slice?
  constructor
  · intro found
    split at found
    · obtain ⟨before, cut, inside⟩ := Option.bind_eq_some_iff.mp found
      obtain ⟨⟨back, rfl⟩, rfl⟩ := upTo?_eq_some_iff.mp cut
      obtain ⟨front, rfl, rfl⟩ := from?_eq_some_iff.mp inside
      exact ⟨back, ⟨front, List.append_assoc .., rfl⟩, utf8Length_append ..⟩
    · cases found
  · rintro ⟨back, ⟨front, rfl, rfl⟩, rfl⟩
    have cut : upTo? (utf8Length front + utf8Length part) (front ++ (part ++ back)) =
        some (front ++ part) :=
      upTo?_eq_some_iff.mpr ⟨⟨back, List.append_assoc ..⟩, (utf8Length_append ..).symm⟩
    rw [if_pos (Nat.le_add_right ..), cut, Option.bind_some]
    exact from?_eq_some_iff.mpr ⟨front, rfl, rfl⟩

example : slice? 1 2 ['a', 'é', 'b'] = none := by decide

theorem upTo?_append (front back : Text) : upTo? (utf8Length front) (front ++ back) = some front :=
  upTo?_eq_some_iff.mpr ⟨List.prefix_append .., rfl⟩

theorem bytesUpTo?_append (front back : Text) :
    bytesUpTo? (utf8Length front) (utf8 (front ++ back)) = some (utf8 front) := by
  rw [bytesUpTo?, length_utf8, utf8Length_append, if_pos (Nat.le_add_right ..), utf8_append,
    ← length_utf8, List.take_left]

namespace At
variable {text rest : Text} {position : Nat}

theorem here (text : Text) : At text 0 text := ⟨[], rfl, rfl⟩

theorem append (front rest : Text) : At (front ++ rest) (utf8Length front) rest := ⟨front, rfl, rfl⟩

theorem from?_eq (place : At text position rest) : from? position text = some rest :=
  from?_eq_some_iff.mpr place

/-- Behind what is read stands what follows it. -/
theorem advance {run back : Text} (place : At text position (run ++ back)) :
    At text (position + utf8Length run) back := by
  obtain ⟨front, rfl, rfl⟩ := place
  exact ⟨front ++ run, (List.append_assoc ..).symm, (utf8Length_append ..).symm⟩

theorem next {c : Char} (place : At text position (c :: rest)) :
    At text (position + c.utf8Size) rest := by
  have later : At text (position + utf8Length [c]) rest := advance place
  rwa [utf8Length_singleton] at later

theorem tail {c : Char} (place : At text position (c :: rest)) (ascii : c.utf8Size = 1) :
    At text (position + 1) rest := ascii ▸ place.next

/-- A longer text has more to read at the same position. -/
theorem extend (place : At text position rest) (hidden : Text) :
    At (text ++ hidden) position (rest ++ hidden) := by
  obtain ⟨front, rfl, rfl⟩ := place
  exact ⟨front, List.append_assoc .., rfl⟩

theorem length_eq (place : At text position rest) :
    utf8Length text = position + utf8Length rest := by
  obtain ⟨front, rfl, rfl⟩ := place
  exact utf8Length_append ..

theorem lt_length {c : Char} (place : At text position (c :: rest)) :
    position < utf8Length text := by
  have positive := c.utf8Size_pos
  rw [place.length_eq, utf8Length_cons]
  omega

/-- What is read is the cut between where the reading starts and where it ends. -/
theorem slice?_eq {run back : Text} {stop : Nat} (place : At text position (run ++ back))
    (ends : stop = position + utf8Length run) : slice? position stop text = some run :=
  slice?_eq_some_iff.mpr ⟨back, place, ends⟩

theorem slice?_end (place : At text position rest) :
    slice? position (utf8Length text) text = some rest := by
  rw [← List.append_nil rest] at place
  exact place.slice?_eq (place.length_eq.trans (by rw [List.append_nil]))

theorem bytesFrom?_eq (place : At text position rest) :
    bytesFrom? position (utf8 text) = some (utf8 rest) := by
  obtain ⟨front, rfl, rfl⟩ := place
  rw [bytesFrom?, length_utf8, utf8Length_append, if_pos (Nat.le_add_right ..), utf8_append,
    ← length_utf8, List.drop_left]

theorem drop_eq (place : At text position rest) : (utf8 text).drop position = utf8 rest := by
  obtain ⟨front, rfl, rfl⟩ := place
  rw [utf8_append, ← length_utf8, List.drop_left]

theorem getElem?_eq (place : At text position rest) :
    (utf8 text)[position]? = (utf8 rest).head? := by
  rw [← place.drop_eq, List.head?_drop]

/-- Each byte of the character that stands at a position. -/
theorem exists_getElem? {c : Char} {inside : Nat} (place : At text position (c :: rest))
    (behind : position ≤ inside) (ahead : inside < position + c.utf8Size) :
    ∃ b ∈ String.utf8EncodeChar c, (utf8 text)[inside]? = some b := by
  obtain ⟨front, rfl, rfl⟩ := place
  have offset : inside - utf8Length front < (String.utf8EncodeChar c).length := by
    rw [String.length_utf8EncodeChar]
    omega
  refine ⟨_, List.getElem_mem offset, ?_⟩
  rw [utf8_append, List.getElem?_append_right (by rwa [length_utf8]), length_utf8, utf8_cons,
    List.getElem?_append_left offset, List.getElem?_eq_getElem offset]

end At

/-! ## Tests of bytes -/

/-- A test of bytes that says of each byte of a character what a test of characters says of the
character. -/
def ReadsAs (q : UInt8 → Bool) (p : Char → Bool) : Prop :=
  ∀ c, ∀ b ∈ String.utf8EncodeChar c, q b = p c

/-- Whether a byte is an ASCII character that passes a test. -/
def onAscii (p : Char → Bool) (b : UInt8) : Bool := b < 0x80 && p (Char.ofNat b.toNat)

theorem exists_utf8EncodeChar (c : Char) : ∃ b bytes, String.utf8EncodeChar c = b :: bytes :=
  List.exists_cons_of_length_pos
    (Nat.lt_of_lt_of_eq c.utf8Size_pos (String.length_utf8EncodeChar c).symm)

theorem utf8EncodeChar_of_ascii {c : Char} (ascii : c.utf8Size = 1) :
    String.utf8EncodeChar c = [c.toUInt8] := String.utf8EncodeChar_eq_singleton ascii

theorem toNat_le_of_ascii {c : Char} (ascii : c.utf8Size = 1) : c.toNat ≤ 127 :=
  UInt32.le_iff_toNat_le.mp (Char.utf8Size_eq_one_iff.mp ascii)

theorem toNat_toUInt8 {c : Char} (ascii : c.utf8Size = 1) : c.toUInt8.toNat = c.toNat := by
  have small := toNat_le_of_ascii ascii
  change c.val.toUInt8.toNat = c.toNat
  rw [UInt32.toNat_toUInt8]
  exact Nat.mod_eq_of_lt (Nat.lt_of_le_of_lt small (by decide))

/-- Each byte of a character outside of ASCII is outside of ASCII. -/
theorem le_of_mem_utf8EncodeChar {c : Char} (wide : c.utf8Size ≠ 1) {b : UInt8}
    (member : b ∈ String.utf8EncodeChar c) : 128 ≤ b.toNat := by
  have large : ¬ c.val.toNat ≤ 127 := fun small =>
    wide (Char.utf8Size_eq_one_iff.mpr (UInt32.le_iff_toNat_le.mpr small))
  simp only [String.utf8EncodeChar, if_neg large] at member
  split at member
  · simp only [List.mem_cons, List.not_mem_nil, or_false] at member
    rcases member with rfl | rfl <;> simp only [UInt8.toNat_ofNat'] <;> omega
  · split at member
    · simp only [List.mem_cons, List.not_mem_nil, or_false] at member
      rcases member with rfl | rfl | rfl <;> simp only [UInt8.toNat_ofNat'] <;> omega
    · simp only [List.mem_cons, List.not_mem_nil, or_false] at member
      rcases member with rfl | rfl | rfl | rfl <;> simp only [UInt8.toNat_ofNat'] <;> omega

theorem readsAs_onAscii {p : Char → Bool} (ascii : ∀ c, p c = true → c.utf8Size = 1) :
    ReadsAs (onAscii p) p := by
  intro c b member
  by_cases narrow : c.utf8Size = 1
  · rw [utf8EncodeChar_of_ascii narrow] at member
    obtain rfl := List.mem_singleton.mp member
    have small : c.toUInt8 < 0x80 := UInt8.lt_iff_toNat_lt.mpr (by
      rw [toNat_toUInt8 narrow]
      exact Nat.lt_succ_of_le (toNat_le_of_ascii narrow))
    rw [onAscii, toNat_toUInt8 narrow, Char.ofNat_toNat, decide_eq_true small, Bool.true_and]
  · have large : ¬ b < 0x80 := fun small =>
      absurd (UInt8.lt_iff_toNat_lt.mp small)
        (Nat.not_lt.mpr (le_of_mem_utf8EncodeChar narrow member))
    rw [onAscii, decide_eq_false large, Bool.false_and]
    exact (Bool.eq_false_iff.mpr fun holds => narrow (ascii c holds)).symm

/-- A byte that is an ASCII character is found in no other character. -/
theorem readsAs_beq {c : Char} (ascii : c.utf8Size = 1) : ReadsAs (· == c.toUInt8) (· == c) := by
  intro d b member
  rw [Bool.eq_iff_iff, beq_iff_eq, beq_iff_eq]
  by_cases narrow : d.utf8Size = 1
  · rw [utf8EncodeChar_of_ascii narrow] at member
    obtain rfl := List.mem_singleton.mp member
    refine ⟨fun same => ?_, congrArg Char.toUInt8⟩
    have code := congrArg UInt8.toNat same
    rw [toNat_toUInt8 narrow, toNat_toUInt8 ascii] at code
    exact Char.toNat_inj.mp code
  · have large := le_of_mem_utf8EncodeChar narrow member
    constructor
    · rintro rfl
      rw [toNat_toUInt8 ascii] at large
      exact absurd (toNat_le_of_ascii ascii) (Nat.not_le.mpr large)
    · rintro rfl
      exact absurd ascii narrow

theorem ReadsAs.not {q : UInt8 → Bool} {p : Char → Bool} (reads : ReadsAs q p) :
    ReadsAs (fun b => !q b) (fun c => !p c) := fun c b member => congrArg _ (reads c b member)

theorem ReadsAs.or {q r : UInt8 → Bool} {p s : Char → Bool} (first : ReadsAs q p)
    (second : ReadsAs r s) : ReadsAs (fun b => q b || r b) (fun c => p c || s c) :=
  fun c b member => congrArg₂ _ (first c b member) (second c b member)

section Search
variable {q : UInt8 → Bool} {p : Char → Bool} (reads : ReadsAs q p)

include reads

theorem takeWhile_utf8 (text : Text) : (utf8 text).takeWhile q = utf8 (text.takeWhile p) := by
  induction text with
  | nil => rfl
  | cons c text ih =>
    rw [utf8_cons]
    cases holds : p c with
    | true =>
      rw [List.takeWhile_append_of_pos fun b member => (reads c b member).trans holds, ih,
        List.takeWhile_cons_of_pos holds, utf8_cons]
    | false =>
      obtain ⟨b, bytes, encoded⟩ := exists_utf8EncodeChar c
      have fails := (reads c b (by simp [encoded])).trans holds
      rw [encoded, List.cons_append, List.takeWhile_cons_of_neg (by simp [fails]),
        List.takeWhile_cons_of_neg (by simp [holds]), utf8_nil]

theorem findIdx?_utf8_eq_none {text : Text} (absent : ∀ d ∈ text, p d = false) :
    (utf8 text).findIdx? q = none := by
  rw [List.findIdx?_eq_none_iff]
  intro b member
  obtain ⟨c, inside, part⟩ := List.mem_flatMap.mp member
  exact (reads c b part).trans (absent c inside)

theorem findIdx?_utf8 {before back : Text} {c : Char} (absent : ∀ d ∈ before, p d = false)
    (found : p c = true) :
    (utf8 (before ++ c :: back)).findIdx? q = some (utf8Length before) := by
  obtain ⟨b, bytes, encoded⟩ := exists_utf8EncodeChar c
  have first : q b = true := (reads c b (by simp [encoded])).trans found
  rw [utf8_append, List.findIdx?_append, findIdx?_utf8_eq_none reads absent, Option.none_or,
    utf8_cons, encoded, List.cons_append, List.findIdx?_cons, if_pos first, Option.map_some,
    Nat.zero_add, length_utf8]

theorem any_head?_utf8 (text : Text) : (utf8 text).head?.any q = text.head?.any p := by
  cases text with
  | nil => rfl
  | cons c text =>
    obtain ⟨b, bytes, encoded⟩ := exists_utf8EncodeChar c
    rw [utf8_cons, encoded]
    exact reads c b (by simp [encoded])

/-- The first byte of what stands at a position. -/
theorem At.any_getElem? {text rest : Text} {position : Nat} (place : At text position rest) :
    (utf8 text)[position]?.any q = rest.head?.any p := by
  rw [place.getElem?_eq, any_head?_utf8 reads]

theorem At.any_getElem?_within {text rest : Text} {position inside : Nat} {c : Char}
    (place : At text position (c :: rest)) (behind : position ≤ inside)
    (ahead : inside < position + c.utf8Size) : (utf8 text)[inside]?.any q = p c := by
  obtain ⟨b, member, read⟩ := place.exists_getElem? behind ahead
  rw [read]
  exact reads c b member

end Search

/-! ## Searching for a character -/

/-- The position of the next byte of a kind, from a position on. -/
def findByte (needle : UInt8) (start : Nat) (bytes : Bytes) : Option Nat :=
  ((bytes.drop start).findIdx? (· == needle)).map (start + ·)

theorem findByte_of_length_le {needle : UInt8} {start : Nat} {bytes : Bytes}
    (ended : bytes.length ≤ start) : findByte needle start bytes = none := by
  rw [findByte, List.drop_eq_nil_of_le ended]
  rfl

section FindByte
variable {text before back rest : Text} {position : Nat} {c : Char}

theorem At.findByte_eq_some (place : At text position (before ++ c :: back))
    (ascii : c.utf8Size = 1) (absent : c ∉ before) :
    findByte c.toUInt8 position (utf8 text) = some (position + utf8Length before) := by
  rw [findByte, place.drop_eq, findIdx?_utf8 (readsAs_beq ascii) _ (beq_self_eq_true c),
    Option.map_some]
  exact fun d member => beq_eq_false_iff_ne.mpr fun same => absent (same ▸ member)

theorem At.findByte_here (place : At text position (c :: rest)) (ascii : c.utf8Size = 1) :
    findByte c.toUInt8 position (utf8 text) = some position := by
  have found : At text position ([] ++ c :: rest) := place
  rw [found.findByte_eq_some ascii List.not_mem_nil, utf8Length_nil, Nat.add_zero]

theorem At.findByte_eq_none (place : At text position rest) (ascii : c.utf8Size = 1)
    (absent : c ∉ rest) : findByte c.toUInt8 position (utf8 text) = none := by
  rw [findByte, place.drop_eq, findIdx?_utf8_eq_none (readsAs_beq ascii), Option.map_none]
  exact fun d member => beq_eq_false_iff_ne.mpr fun same => absent (same ▸ member)

/-- A search passes over what does not hold the character. -/
theorem At.findByte_skip {run : Text} (place : At text position (run ++ rest))
    (ascii : c.utf8Size = 1) (absent : c ∉ run) :
    findByte c.toUInt8 position (utf8 text) =
      findByte c.toUInt8 (position + utf8Length run) (utf8 text) := by
  by_cases found : c ∈ rest
  · obtain ⟨before, back, rfl, first⟩ := List.eq_append_cons_of_mem found
    rw [place.advance.findByte_eq_some ascii first]
    rw [← List.append_assoc] at place
    rw [place.findByte_eq_some ascii (by simp [absent, first]), utf8Length_append, Nat.add_assoc]
  · rw [place.advance.findByte_eq_none ascii found,
      place.findByte_eq_none ascii (by simp [absent, found])]

end FindByte

end TagQuery.Offset
