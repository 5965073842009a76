import TagQuery.Markup.Slice
import TagQuery.Proofs.Offset.Tag

/-!
# Fragments at byte offsets

A nestable slice is cut before each further `<`, and each piece is cut after its `>`. Both cuts are
made here at positions that are found byte by byte. `splitNested_eq` and `fragmentFrom_eq` say that
the cuts exist in any text; in a text that starts with `<`, as all slices do, they give what
`Markup.fragments` and `Markup.fragment?` give.

A text whose first character is outside of ASCII has no name for these readers, since its second
byte is not on a boundary.
-/

namespace TagQuery.Offset

open Text (utf8 utf8Length)

/-- The fragment that a piece becomes. -/
def fragmentFrom (piece : Text) : Option (Option Slice) := do
  let name ← wordRun 1 piece
  if name.isEmpty || Markup.isLineBreak name then return none
  else
    match findByte '>'.toUInt8 0 (utf8 piece) with
    | none => return none
    | some openEnd => do
      let closed ← selfClosing (1 + utf8Length name) openEnd (utf8 piece)
      let text ←
        if closed || !(Category.ofName name).hasBody then upTo? (openEnd + 1) piece
        else some (closeUnmatched name piece)
      return some ⟨text, name, .fragment⟩

/-- The fragments of a slice from a `<` of it on, in a number of steps. -/
def fragmentsFrom (slice : Text) : Nat → Option Nat → Option (List Slice)
  | _, none => some []
  | 0, some _ => none
  | steps + 1, some start => do
    let next? := findByte '<'.toUInt8 (start + 1) (utf8 slice)
    let piece ← slice? start (next?.getD (utf8Length slice)) slice
    let fragment? ← fragmentFrom piece
    let later ← fragmentsFrom slice steps next?
    return fragment?.toList ++ later

/-- The fragments of a slice: none unless an opener of the slice's own name follows its opening
tag. -/
def splitNested (slice : Text) : Option (List Slice) := do
  let name ← wordRun 1 slice
  match findByte '>'.toUInt8 0 (utf8 slice) with
  | none => return []
  | some openEnd => do
    let inside ← from? (openEnd + 1) slice
    if countOpeners name inside = 0 then return []
    else fragmentsFrom slice (utf8Length slice) (findByte '<'.toUInt8 1 (utf8 slice))

/-! ## Names of any text -/

/-- The name that is read behind the first byte of a text. -/
def leadingName (text : Text) : Text :=
  if text.head?.all (·.utf8Size == 1) then Markup.tagName text else []

theorem wordRun_one (text : Text) : wordRun 1 text = some (leadingName text) := by
  cases text with
  | nil => rfl
  | cons c rest =>
    by_cases ascii : c.utf8Size = 1
    · rw [((At.here (c :: rest)).tail ascii).wordRun_eq]
      simp [leadingName, Markup.tagName, ascii]
    · have positive := c.utf8Size_pos
      have off : from? 1 (c :: rest) = none := by
        rw [from?, splitAt?, if_neg (by omega), Option.map_none]
      rw [wordRun, off]
      simp [leadingName, ascii]

theorem isWord_of_mem_leadingName {text : Text} : ∀ c ∈ leadingName text, Text.isWord c = true := by
  intro c member
  unfold leadingName at member
  split at member
  · exact List.mem_takeWhile_imp member
  · cases member

/-! ## One fragment -/

section Fragment
variable {c : Char} {name tail : Text} (ascii : c.utf8Size = 1)
  (word : ∀ d ∈ name, Text.isWord d = true)

include ascii word

/-- A piece that is cut at its first `>` closes itself by what stands there behind its name. If the
piece starts with that `>`, nothing does. -/
theorem selfClosing_piece {opening run : Text} (absent : '>' ∉ opening)
    (whole : c :: (name ++ tail) = opening ++ '>' :: run) :
    selfClosing (1 + utf8Length name) (utf8Length opening) (utf8 (opening ++ '>' :: run)) =
      some (Markup.closesItself ((opening ++ ['>']).drop (name.length + 1)).dropLast) := by
  by_cases first : c = '>'
  · have empty : opening = [] := by
      cases opening with
      | nil => rfl
      | cons d opening =>
        rw [← (List.cons.inj whole).1, first] at absent
        exact absurd List.mem_cons_self absent
    rw [empty]
    simp [selfClosing, subtract?, Markup.closesItself]
  · have apart : ∀ d ∈ ('>' :: run).head?, d ∉ c :: name := by
      simp only [List.head?_cons, Option.mem_some_iff, forall_eq', List.mem_cons, not_or]
      exact ⟨Ne.symm first, Text.notMem_of_word word (by decide)⟩
    rw [← List.cons_append] at whole
    obtain ⟨area, rfl, rfl⟩ := Text.exists_append_of_append_eq whole apart
    have place := At.append (c :: name) (area ++ '>' :: run)
    rw [← List.append_assoc, utf8Length_cons, ascii] at place
    have inside : ((c :: name ++ area ++ ['>']).drop (name.length + 1)).dropLast = area := by
      simp
    rw [inside, utf8Length_append, utf8Length_cons, ascii]
    exact place.selfClosing_eq

/-- Where the first `>` ends the opening tag, the piece is cut there or kept and closed. -/
theorem fragmentFrom_of_name (ends : ∀ d ∈ tail.head?, Text.isWord d = false) (named : name ≠ [])
    (other : Markup.isLineBreak name = false) :
    fragmentFrom (c :: (name ++ tail)) = some (Markup.fragment? (c :: (name ++ tail))) := by
  have read : Markup.tagName (c :: (name ++ tail)) = name := Text.takeWhile_run word ends
  have leads : leadingName (c :: (name ++ tail)) = name := by simp [leadingName, read, ascii]
  have proper : (name.isEmpty || Markup.isLineBreak name) = false := by simp [named, other]
  rw [fragmentFrom, wordRun_one, leads, Markup.fragment?, read]
  dsimp only [Option.bind_eq_bind, Option.bind_some]
  rw [proper, if_neg Bool.false_ne_true, if_neg Bool.false_ne_true]
  by_cases closed : '>' ∈ c :: (name ++ tail)
  · obtain ⟨opening, run, whole, absent⟩ := List.eq_append_cons_of_mem closed
    have cut := upTo?_append (opening ++ ['>']) run
    rw [List.append_assoc, List.singleton_append, utf8Length_append] at cut
    rw [whole, (At.here _).findByte_eq_some rfl absent, Text.splitAfter?_append run absent,
      Nat.zero_add]
    dsimp only
    rw [selfClosing_piece ascii word absent whole, Option.bind_some]
    split
    · rw [show utf8Length opening + 1 = utf8Length opening + utf8Length ['>'] from rfl, cut,
        Option.bind_some]
      rfl
    · rw [closeUnmatched_eq word]
      rfl
  · rw [(At.here _).findByte_eq_none rfl closed, Text.splitAfter?_eq_none_iff.mpr closed]
    rfl

end Fragment

/-- A piece has a fragment if its first character is ASCII, and then it is the fragment of its
characters. -/
theorem fragmentFrom_eq (piece : Text) :
    fragmentFrom piece =
      some (if piece.head?.all (·.utf8Size == 1) then Markup.fragment? piece else none) := by
  cases piece with
  | nil => rfl
  | cons c rest =>
    by_cases ascii : c.utf8Size = 1
    · obtain ⟨name, tail, rfl, word, ends⟩ := Text.exists_run Text.isWord rest
      have read : Markup.tagName (c :: (name ++ tail)) = name := Text.takeWhile_run word ends
      by_cases fits : name.isEmpty || Markup.isLineBreak name
      · have leads : leadingName (c :: (name ++ tail)) = name := by simp [leadingName, read, ascii]
        rw [fragmentFrom, wordRun_one, leads, Markup.fragment?, read]
        dsimp only [Option.bind_eq_bind, Option.bind_some]
        rw [if_pos fits, if_pos fits, ite_self]
        rfl
      · rw [Bool.not_eq_true, Bool.or_eq_false_iff] at fits
        rw [fragmentFrom_of_name ascii word ends (by simpa using fits.1) fits.2]
        simp [ascii]
    · rw [fragmentFrom, wordRun_one]
      simp [leadingName, ascii]

theorem fragmentFrom_markup (tail : Text) :
    fragmentFrom ('<' :: tail) = some (Markup.fragment? ('<' :: tail)) := by
  rw [fragmentFrom_eq]
  rfl

/-! ## All fragments -/

section Fragments
variable {slice rest : Text} {steps position : Nat}

/-- A piece reaches to the next `<`, or to the end of the slice. -/
theorem At.slice?_piece (place : At slice position ('<' :: rest)) :
    slice? position ((findByte '<'.toUInt8 (position + 1) (utf8 slice)).getD (utf8Length slice))
      slice = some ('<' :: rest.takeWhile (· != '<')) := by
  have inside := place.tail rfl
  by_cases more : '<' ∈ rest
  · obtain ⟨run, after, rfl, absent⟩ := List.eq_append_cons_of_mem more
    have piece : At slice position (('<' :: run) ++ '<' :: after) := place
    rw [inside.findByte_eq_some rfl absent,
      Text.takeWhile_run (Text.all_bne_of_notMem absent) (by simp)]
    apply piece.slice?_eq
    simp [Nat.add_assoc]
  · rw [inside.findByte_eq_none rfl more,
      List.takeWhile_eq_self_iff.mpr (Text.all_bne_of_notMem more)]
    exact place.slice?_end

/-- The fragments from a position on are those of the pieces of what stands there. -/
theorem fragmentsFrom_eq (enough : rest.length ≤ steps) (place : At slice position rest) :
    fragmentsFrom slice steps (findByte '<'.toUInt8 position (utf8 slice)) =
      some ((Markup.pieces rest).filterMap Markup.fragment?) := by
  fun_induction Markup.pieces rest generalizing position steps with
  | case1 =>
    rw [place.findByte_eq_none rfl (List.not_mem_nil), fragmentsFrom]
    rfl
  | case2 rest ih =>
    obtain ⟨steps, rfl⟩ := Nat.exists_eq_add_one.mpr (Nat.zero_lt_of_lt enough)
    have fewer : (rest.dropWhile (· != '<')).length ≤ steps :=
      Nat.le_trans (List.dropWhile_suffix _).length_le (Nat.le_of_succ_le_succ enough)
    have inside := place.tail rfl
    have run : '<' ∉ rest.takeWhile (· != '<') := fun member => by
      simpa using List.mem_takeWhile_imp member
    have onward : At slice (position + 1)
        (rest.takeWhile (· != '<') ++ rest.dropWhile (· != '<')) := by
      rwa [List.takeWhile_append_dropWhile]
    have later := ih fewer onward.advance
    rw [← onward.findByte_skip rfl run] at later
    rw [place.findByte_here rfl, fragmentsFrom]
    dsimp only [Option.bind_eq_bind]
    rw [place.slice?_piece, Option.bind_some, fragmentFrom_markup, Option.bind_some, later,
      Option.bind_some, List.filterMap_cons]
    cases Markup.fragment? ('<' :: rest.takeWhile (· != '<')) <;> rfl
  | case3 c rest other ih =>
    have run : At slice position ([c] ++ rest) := place
    rw [run.findByte_skip rfl (by simpa [eq_comm] using other)]
    exact ih (Nat.le_of_succ_le enough) run.advance

/-- A search from the second byte passes over the rest of the first character. -/
theorem findByte_one (c : Char) (rest : Text) :
    findByte '<'.toUInt8 1 (utf8 (c :: rest)) =
      findByte '<'.toUInt8 c.utf8Size (utf8 (c :: rest)) := by
  obtain ⟨b, bytes, encoded⟩ := exists_utf8EncodeChar c
  have size : c.utf8Size = bytes.length + 1 := by
    rw [← String.length_utf8EncodeChar, encoded, List.length_cons]
  have passed : bytes.findIdx? (· == '<'.toUInt8) = none := by
    rw [List.findIdx?_eq_none_iff]
    intro x member
    have wide : c.utf8Size ≠ 1 := by
      rw [size]
      have inhabited := List.length_pos_of_mem member
      omega
    have large := le_of_mem_utf8EncodeChar wide (b := x) (by simp [encoded, member])
    rw [beq_eq_false_iff_ne]
    rintro rfl
    exact absurd large (by decide)
  rw [findByte, findByte, utf8_cons, encoded, size, List.cons_append, List.drop_one,
    List.tail_cons, List.drop_succ_cons, List.drop_left, List.findIdx?_append, passed,
    Option.none_or, Option.map_map]
  congr 1
  funext position
  simp only [Function.comp_apply]
  omega

/-- The fragments of any text are those of its pieces behind the first character. -/
theorem splitNested_eq (slice : Text) :
    splitNested slice =
      some (match Text.splitAfter? '>' slice with
        | none => []
        | some (_, inside) =>
          if Markup.countOpeners (leadingName slice) inside = 0 then []
          else (Markup.pieces (slice.drop 1)).filterMap Markup.fragment?) := by
  rw [splitNested, wordRun_one]
  dsimp only [Option.bind_eq_bind, Option.bind_some]
  by_cases closed : '>' ∈ slice
  · obtain ⟨opening, inside, rfl, absent⟩ := List.eq_append_cons_of_mem closed
    have place := (At.here (opening ++ '>' :: inside))
    have behind := (At.append opening ('>' :: inside)).tail rfl
    rw [place.findByte_eq_some rfl absent, Text.splitAfter?_append inside absent, Nat.zero_add]
    dsimp only
    rw [behind.from?_eq, Option.bind_some, countOpeners_eq isWord_of_mem_leadingName]
    split
    · rfl
    · obtain ⟨c, rest, whole⟩ : ∃ c rest, opening ++ '>' :: inside = c :: rest :=
        List.exists_cons_of_ne_nil (by simp)
      have second := (At.here (c :: rest)).next
      rw [Nat.zero_add] at second
      have fewer : rest.length ≤ utf8Length (c :: rest) :=
        Nat.le_of_succ_le (length_le_utf8Length (c :: rest))
      rw [whole, findByte_one, fragmentsFrom_eq fewer second]
      rfl
  · rw [(At.here slice).findByte_eq_none rfl closed, Text.splitAfter?_eq_none_iff.mpr closed]
    rfl

theorem splitNested_markup (tail : Text) :
    splitNested ('<' :: tail) = some (Markup.fragments ('<' :: tail)) := by
  rw [splitNested_eq]
  rfl

end Fragments

end TagQuery.Offset
