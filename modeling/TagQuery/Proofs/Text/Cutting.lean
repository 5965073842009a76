import Mathlib.Data.List.Infix
import Mathlib.Data.List.TakeWhile
import TagQuery.Text.Blank

/-!
# What the cuts of a text say

Each way of cutting a text, read as a statement about the pieces. A run of characters is told
apart from what follows it by the first character outside its class (`exists_run`); a text is cut
after the first occurrence of a character (`splitAfter?_eq_some_iff`) or of a pattern
(`splitAfterPattern?_eq_some_iff`), and not at all only if there is none.

Names that differ in ASCII case only are the same. `stripIgnoringCase?_eq_some_iff` reads the
comparison at the start of a text in these words, and `isWord_of_sameName` keeps such names inside
the word characters.
-/

namespace TagQuery.Text

/-! ## Deciding -/

-- There are finitely many characters, and an instance that goes through all of them.

/-- What is asked of the characters of a text is decided along the text. -/
instance (priority := high) (p : Char → Prop) [DecidablePred p] (text : Text) :
    Decidable (∀ c ∈ text, p c) := List.decidableBAll p text

instance (priority := high) (p : Char → Prop) [DecidablePred p] (first : Option Char) :
    Decidable (∀ c ∈ first, p c) := Option.decidableForallMem first

/-! ## Runs -/

section Run
variable {p : Char → Bool} {run rest : Text}

/-- A character outside a class ends any run of the class. -/
theorem stop_of_cons {c : Char} (outside : p c = false) (rest : Text) :
    ∀ d ∈ (c :: rest).head?, p d = false := by
  intro d first
  obtain rfl := Option.some.inj first
  exact outside

theorem takeWhile_run (inside : ∀ c ∈ run, p c = true) (stop : ∀ c ∈ rest.head?, p c = false) :
    (run ++ rest).takeWhile p = run := by
  rw [List.takeWhile_append_of_pos inside]
  cases rest with
  | nil => simp
  | cons c rest => simp [stop c rfl]

theorem dropWhile_run (inside : ∀ c ∈ run, p c = true) (stop : ∀ c ∈ rest.head?, p c = false) :
    (run ++ rest).dropWhile p = rest := by
  rw [List.dropWhile_append_of_pos inside]
  cases rest with
  | nil => rfl
  | cons c rest => simp [stop c rfl]

end Run

/-- A text is a run of characters of a class, and a rest that does not start with one. -/
theorem exists_run (p : Char → Bool) (text : Text) :
    ∃ run rest, text = run ++ rest ∧ (∀ c ∈ run, p c = true) ∧ ∀ c ∈ rest.head?, p c = false := by
  refine ⟨text.takeWhile p, text.dropWhile p, List.takeWhile_append_dropWhile.symm,
    fun c member => List.mem_takeWhile_imp member, fun c first => ?_⟩
  obtain ⟨rest, found⟩ := List.head?_eq_some_iff.mp first
  have outside := List.head_dropWhile_not p (l := text) (by simp [found])
  simpa only [found, List.head_cons] using outside

/-- What is appended does not lengthen the run at the start, unless the run is the whole text. -/
theorem run_append {p : Char → Bool} (text tail : Text)
    (stop : text.dropWhile p = [] → ∀ c ∈ tail.head?, p c = false) :
    (text ++ tail).takeWhile p = text.takeWhile p ∧
      (text ++ tail).dropWhile p = text.dropWhile p ++ tail := by
  obtain ⟨run, rest, rfl, inside, ends⟩ := exists_run p text
  rw [dropWhile_run inside ends] at stop ⊢
  have later : ∀ c ∈ (rest ++ tail).head?, p c = false := by
    cases rest with
    | nil => exact stop rfl
    | cons c rest => exact stop_of_cons (ends c rfl) (rest ++ tail)
  rw [List.append_assoc, takeWhile_run inside ends]
  exact ⟨takeWhile_run inside later, dropWhile_run inside later⟩

/-- A run ends before a text whose first character is not in it. -/
theorem exists_append_of_append_eq {run rest front back : Text} (whole : run ++ rest = front ++ back)
    (apart : ∀ c ∈ back.head?, c ∉ run) : ∃ middle, front = run ++ middle ∧ rest = middle ++ back := by
  rcases List.append_eq_append_iff.mp whole with ⟨middle, longer, split⟩ | ⟨excess, longer, split⟩
  · exact ⟨middle, longer, split⟩
  · cases excess with
    | nil => exact ⟨[], by simpa using longer.symm, by simpa using split.symm⟩
    | cons c excess => exact absurd (by simp [longer]) (apart c (by simp [split]))

/-! ## Cuts after a character -/

theorem all_bne_of_notMem {stop : Char} {text : Text} (absent : stop ∉ text) :
    ∀ c ∈ text, (c != stop) = true :=
  fun _ member => bne_iff_ne.mpr fun same => absent (same ▸ member)

theorem splitAfter?_append {stop : Char} {before : Text} (rest : Text) (absent : stop ∉ before) :
    splitAfter? stop (before ++ stop :: rest) = some (before ++ [stop], rest) := by
  have inside := all_bne_of_notMem absent
  have ends : ∀ c ∈ (stop :: rest).head?, (c != stop) = false := by simp
  simp only [splitAfter?, dropWhile_run inside ends, takeWhile_run inside ends]

theorem splitAfter?_eq_none_iff {stop : Char} {text : Text} :
    splitAfter? stop text = none ↔ stop ∉ text := by
  constructor
  · intro uncut present
    obtain ⟨before, rest, rfl, absent⟩ := List.eq_append_cons_of_mem present
    rw [splitAfter?_append rest absent] at uncut
    cases uncut
  · intro absent
    have empty : text.dropWhile (· != stop) = [] :=
      List.dropWhile_eq_nil_iff.mpr (all_bne_of_notMem absent)
    simp only [splitAfter?, empty]

/-- A text is cut after the first occurrence of the character. -/
theorem splitAfter?_eq_some_iff {stop : Char} {text front rest : Text} :
    splitAfter? stop text = some (front, rest) ↔
      ∃ before, front = before ++ [stop] ∧ text = before ++ stop :: rest ∧ stop ∉ before := by
  constructor
  · intro cut
    have present : stop ∈ text := by
      by_contra absent
      rw [splitAfter?_eq_none_iff.mpr absent] at cut
      cases cut
    obtain ⟨before, after, rfl, absent⟩ := List.eq_append_cons_of_mem present
    rw [splitAfter?_append after absent] at cut
    cases cut
    exact ⟨before, rfl, rfl, absent⟩
  · rintro ⟨before, rfl, rfl, absent⟩
    exact splitAfter?_append rest absent

/-! ## Cuts after a pattern -/

theorem strip?_eq_none_iff {pattern text : Text} :
    strip? pattern text = none ↔ ¬ pattern <+: text := by
  constructor
  · rintro absent ⟨rest, rfl⟩
    rw [strip?_eq_some_iff.mpr rfl] at absent
    cases absent
  · intro absent
    cases found : strip? pattern text with
    | none => rfl
    | some rest => exact absurd ⟨rest, (strip?_eq_some_iff.mp found).symm⟩ absent

theorem splitAfterPattern?_eq_none_iff {pattern text : Text} :
    splitAfterPattern? pattern text = none ↔ ¬ pattern <:+: text := by
  induction text with
  | nil =>
    rw [splitAfterPattern?, Option.map_eq_none_iff, strip?_eq_none_iff, List.prefix_nil,
      List.infix_nil]
  | cons c text ih =>
    rw [List.infix_cons_iff, not_or, ← strip?_eq_none_iff, ← ih]
    cases found : strip? pattern (c :: text) with
    | none => simp [splitAfterPattern?, found]
    | some rest => simp [splitAfterPattern?, found]

private theorem first_of_splitAfterPattern? {pattern text front rest : Text}
    (nonempty : pattern ≠ []) (cut : splitAfterPattern? pattern text = some (front, rest)) :
    pattern <:+ front ∧ ¬ pattern <:+: front.dropLast := by
  have atStart : ¬ pattern <:+: pattern.dropLast := fun inside => by
    have shorter := inside.length_le
    have positive := List.length_pos_iff.mpr nonempty
    rw [List.length_dropLast] at shorter
    omega
  induction text generalizing front with
  | nil =>
    obtain ⟨after, _, same⟩ := Option.map_eq_some_iff.mp cut
    cases same
    exact ⟨List.suffix_refl _, atStart⟩
  | cons c text ih =>
    cases found : strip? pattern (c :: text) with
    | some after =>
      simp only [splitAfterPattern?, found] at cut
      cases cut
      exact ⟨List.suffix_refl _, atStart⟩
    | none =>
      simp only [splitAfterPattern?, found] at cut
      obtain ⟨⟨inner, after⟩, later, same⟩ := Option.map_eq_some_iff.mp cut
      cases same
      obtain ⟨ends, first⟩ := ih later
      have inhabited : inner ≠ [] := by
        rintro rfl
        exact nonempty (List.suffix_nil.mp ends)
      refine ⟨ends.trans (List.suffix_cons c inner), ?_⟩
      rw [List.dropLast_cons_of_ne_nil inhabited, List.infix_cons_iff]
      rintro (starts | inside)
      · have whole := append_of_splitAfterPattern? later
        have onward : inner.dropLast <+: text :=
          (List.dropLast_prefix inner).trans ⟨after, whole⟩
        exact strip?_eq_none_iff.mp found
          (starts.trans ((List.prefix_cons_inj c).mpr onward))
      · exact first inside

/-- Of two prefixes of a text that both end in the pattern, only the longer can hold it earlier. -/
private theorem length_le_of_first {pattern text front other : Text} (here : front <+: text)
    (there : other <+: text) (ends : pattern <:+ front) (first : ¬ pattern <:+: other.dropLast) :
    other.length ≤ front.length := by
  by_contra longer
  have within : front <+: other.dropLast := by
    apply List.prefix_of_prefix_length_le here ((List.dropLast_prefix other).trans there)
    rw [List.length_dropLast]
    omega
  exact first (ends.isInfix.trans within.isInfix)

/-- A text is cut after the first occurrence of the pattern. -/
theorem splitAfterPattern?_eq_some_iff {pattern text front rest : Text} (nonempty : pattern ≠ []) :
    splitAfterPattern? pattern text = some (front, rest) ↔
      text = front ++ rest ∧ pattern <:+ front ∧ ¬ pattern <:+: front.dropLast := by
  constructor
  · intro cut
    exact ⟨(append_of_splitAfterPattern? cut).symm, first_of_splitAfterPattern? nonempty cut⟩
  · rintro ⟨whole, ends, first⟩
    have here : front <+: text := ⟨rest, whole.symm⟩
    cases cut : splitAfterPattern? pattern text with
    | none =>
      exact absurd (ends.isInfix.trans here.isInfix) (splitAfterPattern?_eq_none_iff.mp cut)
    | some found =>
      obtain ⟨other, after⟩ := found
      obtain ⟨otherEnds, otherFirst⟩ := first_of_splitAfterPattern? nonempty cut
      have same := append_of_splitAfterPattern? cut
      have there : other <+: text := ⟨after, same⟩
      have equal := Nat.le_antisymm (length_le_of_first here there ends otherFirst)
        (length_le_of_first there here otherEnds first)
      obtain ⟨rfl, rfl⟩ := List.append_inj (same.trans whole) equal
      rfl

/-! ## The last occurrence of a pattern -/

theorem prefix_of_beforeLast? {pattern text before : Text}
    (last : beforeLast? pattern text = some before) : before <+: text := by
  induction text generalizing before with
  | nil => cases last
  | cons c text ih =>
    rw [beforeLast?] at last
    split at last
    · rename_i inner found
      cases last
      exact (List.prefix_cons_inj c).mpr (ih found)
    · split at last
      · cases last
        exact List.nil_prefix
      · cases last

/-- The last occurrence at the end of a text is the last one of the text. -/
theorem beforeLast?_append_of_some {pattern front back before : Text}
    (last : beforeLast? pattern back = some before) :
    beforeLast? pattern (front ++ back) = some (front ++ before) := by
  induction front with
  | nil => exact last
  | cons c front ih => rw [List.cons_append, beforeLast?, ih, List.cons_append]

/-- A text is cut before an occurrence of the pattern that no other follows. -/
theorem beforeLast?_append {pattern front back : Text} (last : beforeLast? pattern back = some []) :
    beforeLast? pattern (front ++ back) = some front := by
  rw [beforeLast?_append_of_some last, List.append_nil]

/-- Without an occurrence at the end of a text, the last one starts before that end. -/
theorem exists_append_of_beforeLast? {pattern front back before : Text}
    (absent : beforeLast? pattern back = none)
    (last : beforeLast? pattern (front ++ back) = some before) :
    ∃ more, more ≠ [] ∧ front = before ++ more := by
  induction front generalizing before with
  | nil =>
    rw [List.nil_append, absent] at last
    cases last
  | cons c front ih =>
    rw [List.cons_append, beforeLast?] at last
    split at last
    · rename_i inner found
      cases last
      obtain ⟨more, inhabited, rfl⟩ := ih found
      exact ⟨more, inhabited, rfl⟩
    · split at last
      · cases last
        exact ⟨c :: front, List.cons_ne_nil _ _, rfl⟩
      · cases last

/-! ## White space -/

theorem isSpace_cases {c : Char} (space : isSpace c = true) :
    c = ' ' ∨ c = '\t' ∨ c = '\n' ∨ c = '\x0c' ∨ c = '\r' := by
  simpa [isSpace, or_assoc] using space

/-- White space is outside of a class in which none of the five characters is. -/
theorem eq_false_of_isSpace {p : Char → Bool}
    (outside : [' ', '\t', '\n', '\x0c', '\r'].any p = false) {c : Char}
    (space : isSpace c = true) : p c = false := by
  rw [← Bool.not_eq_true]
  apply List.any_eq_false.mp outside
  simpa using isSpace_cases space

/-! ## Trimming -/

theorem isBlank_of_isAlpha {c : Char} (alpha : c.isAlpha = true) : isBlank c = false := by
  have letter : c.isUpper = true ∨ c.isLower = true := by
    rw [← Bool.or_eq_true]
    exact alpha
  have bounds : 65 ≤ c.toNat ∧ c.toNat ≤ 122 := by
    rcases letter with upper | lower
    · obtain ⟨low, high⟩ : 'A'.val ≤ c.val ∧ c.val ≤ 'Z'.val := of_decide_eq_true upper
      exact ⟨low, Nat.le_trans high (by decide)⟩
    · obtain ⟨low, high⟩ := (Bool.and_eq_true _ _).mp lower
      exact ⟨Nat.le_trans (by decide) (of_decide_eq_true low), of_decide_eq_true high⟩
  rw [← Bool.not_eq_true]
  intro blank
  simp only [isBlank, Bool.or_eq_true, Bool.and_eq_true, decide_eq_true_eq, beq_iff_eq] at blank
  omega

section Trim
variable {blank text : Text} (all : ∀ c ∈ blank, isBlank c = true)

include all

theorem trim_append_left : trim (blank ++ text) = trim text := by
  rw [trim, trimStart, List.dropWhile_append_of_pos all, ← trimStart, ← trim]

theorem trim_append_right : trim (text ++ blank) = trim text := by
  have reversed : ∀ c ∈ blank.reverse, isBlank c = true := fun c member =>
    all c (List.mem_reverse.mp member)
  rw [trim, trim, trimStart, List.dropWhile_append]
  split
  · rename_i empty
    rw [List.dropWhile_eq_nil_iff.mpr all, trimStart, List.isEmpty_iff.mp empty]
  · rw [trimEnd, List.reverse_append, List.dropWhile_append_of_pos reversed, ← trimEnd, trimStart]

end Trim

/-! ## Names without regard to case -/

theorem sameName_iff {first second : Text} :
    sameName first second = true ↔ lower first = lower second := beq_iff_eq

@[simp] theorem sameName_refl (name : Text) : sameName name name = true := sameName_iff.mpr rfl

theorem length_eq_of_sameName {first second : Text} (same : sameName first second = true) :
    first.length = second.length := by
  simpa only [lower, List.length_map] using congrArg List.length (sameName_iff.mp same)

theorem sameName_cons {p c : Char} {pattern text : Text} :
    sameName (p :: pattern) (c :: text) = true ↔
      p.toLower = c.toLower ∧ sameName pattern text = true := by
  simp only [sameName_iff, lower, List.map_cons, List.cons.injEq]

/-- A comparison that disregards ASCII case finds the pattern in some spelling. -/
theorem stripIgnoringCase?_eq_some_iff {pattern text rest : Text} :
    stripIgnoringCase? pattern text = some rest ↔
      ∃ spelling, sameName pattern spelling = true ∧ text = spelling ++ rest := by
  induction pattern generalizing text with
  | nil =>
    constructor
    · intro found
      cases found
      exact ⟨[], rfl, rfl⟩
    · rintro ⟨spelling, same, rfl⟩
      have empty : spelling = [] := List.length_eq_zero_iff.mp (length_eq_of_sameName same).symm
      rw [empty]
      rfl
  | cons p pattern ih =>
    cases text with
    | nil =>
      constructor
      · intro found
        cases found
      · rintro ⟨spelling, same, whole⟩
        have empty : spelling = [] := (List.append_eq_nil_iff.mp whole.symm).1
        rw [empty] at same
        exact absurd (length_eq_of_sameName same) (by simp)
    | cons c text =>
      constructor
      · intro found
        rw [stripIgnoringCase?] at found
        split at found
        · rename_i first
          obtain ⟨spelling, same, rfl⟩ := ih.mp found
          exact ⟨c :: spelling, sameName_cons.mpr ⟨first, same⟩, rfl⟩
        · cases found
      · rintro ⟨spelling, same, whole⟩
        cases spelling with
        | nil => exact absurd (length_eq_of_sameName same) (by simp)
        | cons d spelling =>
          obtain ⟨first, later⟩ := sameName_cons.mp same
          obtain ⟨rfl, rfl⟩ := List.cons.inj whole
          rw [stripIgnoringCase?, if_pos first]
          exact ih.mpr ⟨spelling, later, rfl⟩

theorem isAlpha_of_case {c : Char} (letter : c.isUpper = true ∨ c.isLower = true) :
    c.isAlpha = true := by
  change (c.isUpper || c.isLower) = true
  rwa [Bool.or_eq_true]

theorem isWord_of_isAlpha {c : Char} (letter : c.isUpper = true ∨ c.isLower = true) :
    isWord c = true := by
  simp [isWord, Char.isAlphanum, isAlpha_of_case letter]

theorem isLower_toLower {c : Char} (upper : c.isUpper = true) : c.toLower.isLower = true := by
  have range : 'A'.val ≤ c.val ∧ c.val ≤ 'Z'.val := of_decide_eq_true upper
  have lowered : c.toLower.val = c.val + ('a'.val - 'A'.val) := congrArg Char.val (dif_pos range)
  change (decide ('a'.val ≤ c.toLower.val) && decide (c.toLower.val ≤ 'z'.val)) = true
  rw [lowered]
  grind [UInt32.toNat_add, UInt32.le_iff_toNat_le]

theorem toLower_of_not_isUpper {c : Char} (small : ¬ c.isUpper = true) : c.toLower = c :=
  dif_neg fun range => small (decide_eq_true range)

theorem not_isUpper_of_isLower {c : Char} (small : c.isLower = true) : ¬ c.isUpper = true := by
  intro upper
  obtain ⟨low, _⟩ := (Bool.and_eq_true _ _).mp small
  obtain ⟨_, high⟩ : 'A'.val ≤ c.val ∧ c.val ≤ 'Z'.val := of_decide_eq_true upper
  exact absurd (UInt32.le_trans (of_decide_eq_true low) high) (by decide)

theorem toLower_toLower (c : Char) : c.toLower.toLower = c.toLower := by
  by_cases upper : c.isUpper = true
  · exact toLower_of_not_isUpper (not_isUpper_of_isLower (isLower_toLower upper))
  · rw [toLower_of_not_isUpper upper, toLower_of_not_isUpper upper]

theorem isWord_toLower (c : Char) : isWord c.toLower = isWord c := by
  by_cases upper : c.isUpper = true
  · rw [isWord_of_isAlpha (.inl upper), isWord_of_isAlpha (.inr (isLower_toLower upper))]
  · rw [toLower_of_not_isUpper upper]

/-- The spellings of a name of word characters are made of word characters. -/
theorem isWord_of_sameName {name spelling : Text} (same : sameName name spelling = true)
    (word : ∀ c ∈ name, isWord c = true) : ∀ c ∈ spelling, isWord c = true := by
  intro c member
  have lowered : c.toLower ∈ lower name := by
    rw [sameName_iff.mp same]
    exact List.mem_map_of_mem member
  obtain ⟨d, inside, alike⟩ := List.mem_map.mp lowered
  rw [← isWord_toLower, ← alike, isWord_toLower]
  exact word d inside

theorem notMem_of_word {name : Text} {c : Char} (word : ∀ c ∈ name, isWord c = true)
    (other : isWord c = false) : c ∉ name := fun member => by
  rw [word c member] at other
  cases other

end TagQuery.Text
