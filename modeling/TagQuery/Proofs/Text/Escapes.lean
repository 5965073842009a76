import TagQuery.Text.Quoted
import Mathlib.Data.List.Basic

/-!
# Escapes

Between quotation marks some characters are written as a backslash with something behind it.
Which characters these are is a matter of tables; `IsEscaping` says the little that has to be known
of them, and `isEscaping_escapeChar` that it is so.

To a reader that knows nothing of escapes a written text differs from the plain one as soon as one
character is escaped (`flatMap_ne_of_escaped`). All the same there are no brackets in it besides
those of the plain text (`mem_of_mem_flatMap`), and each quotation mark in it stands behind a
backslash (`Guarded`).
-/

namespace TagQuery.Text

/-- What can stand behind the backslash of an escape. -/
def IsEscapeTail (tail : Text) : Prop :=
  tail = ['"'] ∨ tail = ['\\'] ∨ ∀ c ∈ tail, c.isAlphanum = true ∨ c = '\x7b' ∨ c = '\x7d'

/-- Each character is written as it is or as an escape, and the quotation mark and the backslash
are not written as they are. -/
structure IsEscaping (escape : Char → Text) : Prop where
  escaped : ∀ c, escape c ≠ [c] → ∃ tail, escape c = '\\' :: tail ∧ IsEscapeTail tail
  mark : escape '"' ≠ ['"']
  backslash : escape '\\' ≠ ['\\']

/-! ## The escapes of quoted texts -/

theorem isAlphanum_of_mem_toDigitsCore {fuel n : Nat} {digits : List Char}
    (all : ∀ c ∈ digits, c.isAlphanum = true) :
    ∀ c ∈ Nat.toDigitsCore 16 fuel n digits, c.isAlphanum = true := by
  have digit : ∀ d < 16, (Nat.digitChar d).isAlphanum = true := by decide
  induction fuel generalizing n digits with
  | zero => exact all
  | succ fuel ih =>
    have longer : ∀ c ∈ Nat.digitChar (n % 16) :: digits, c.isAlphanum = true :=
      List.forall_mem_cons.mpr ⟨digit _ (Nat.mod_lt n (by decide)), all⟩
    rw [Nat.toDigitsCore]
    split
    · exact longer
    · exact ih longer

theorem isAlphanum_of_mem_hexDigits {n : Nat} {c : Char} (member : c ∈ hexDigits n) :
    c.isAlphanum = true := isAlphanum_of_mem_toDigitsCore (List.forall_mem_nil _) c member

theorem isEscapeTail_codePoint (n : Nat) :
    IsEscapeTail ('u' :: '\x7b' :: (hexDigits n ++ ['\x7d'])) := by
  refine .inr (.inr fun c member => ?_)
  simp only [List.mem_cons, List.mem_append, List.not_mem_nil, or_false] at member
  rcases member with rfl | rfl | digit | rfl
  · exact .inl rfl
  · exact .inr (.inl rfl)
  · exact .inl (isAlphanum_of_mem_hexDigits digit)
  · exact .inr (.inr rfl)

theorem isEscapeTail_letter {c : Char} (letter : c.isAlphanum = true) : IsEscapeTail [c] :=
  .inr (.inr (List.forall_mem_singleton.mpr (.inl letter)))

/-- Quoted texts are written with escapes. -/
theorem isEscaping_escapeChar : IsEscaping (escapeChar '"') where
  escaped c changed := by
    unfold escapeChar at changed ⊢
    split_ifs at changed ⊢ with special null tab feed carriage shown
    · rcases special with rfl | rfl
      · exact ⟨_, rfl, .inl rfl⟩
      · exact ⟨_, rfl, .inr (.inl rfl)⟩
    · exact ⟨_, rfl, isEscapeTail_letter rfl⟩
    · exact ⟨_, rfl, isEscapeTail_letter rfl⟩
    · exact ⟨_, rfl, isEscapeTail_letter rfl⟩
    · exact ⟨_, rfl, isEscapeTail_letter rfl⟩
    · exact absurd rfl changed
    · exact ⟨_, rfl, isEscapeTail_codePoint _⟩
  mark := by decide
  backslash := by decide

/-! ## What a reader without escapes sees -/

/-- Every quotation mark stands behind a backslash. -/
def Guarded (text : Text) : Prop :=
  ∀ front back, text = front ++ '"' :: back → front.getLast? = some '\\'

theorem guarded_of_notMem {text : Text} (unmarked : '"' ∉ text) : Guarded text :=
  fun front back whole => absurd (by simp [whole]) unmarked

theorem Guarded.append {first second : Text} (here : Guarded first) (there : Guarded second) :
    Guarded (first ++ second) := by
  intro front back whole
  rcases List.append_eq_append_iff.mp whole with ⟨middle, longer, split⟩ | ⟨middle, longer, split⟩
  · rw [longer, List.getLast?_append, there middle back split]
    rfl
  · cases middle with
    | nil => exact absurd (there [] back (by simpa using split.symm)) nofun
    | cons c middle =>
      rw [List.cons_append] at split
      obtain ⟨rfl, rfl⟩ := List.cons.inj split
      exact here front middle longer

namespace IsEscaping
variable {escape : Char → Text} (escaping : IsEscaping escape)

include escaping

theorem guarded_escape (c : Char) : Guarded (escape c) := by
  by_cases plain : escape c = [c]
  · have other : c ≠ '"' := fun same => escaping.mark (same ▸ plain)
    rw [plain]
    exact guarded_of_notMem (by simpa using other.symm)
  · obtain ⟨tail, written, rfl | rfl | inside⟩ := escaping.escaped c plain
    · intro front back whole
      rw [written] at whole
      obtain _ | ⟨first, _ | ⟨second, front⟩⟩ := front
      · exact absurd (List.cons.inj whole).1 (by decide)
      · rw [← (List.cons.inj whole).1]
        rfl
      · simp at whole
    · rw [written]
      exact guarded_of_notMem (by decide)
    · rw [written]
      refine guarded_of_notMem fun member => ?_
      rcases List.mem_cons.mp member with same | behind
      · exact absurd same (by decide)
      · exact absurd (inside _ behind) (by decide)

theorem guarded_flatMap (text : Text) : Guarded (text.flatMap escape) := by
  induction text with
  | nil => exact guarded_of_notMem nofun
  | cons c text ih => exact (escaping.guarded_escape c).append ih

/-- Brackets are in no escape. -/
theorem mem_of_mem_flatMap {text : Text} (member : ']' ∈ text.flatMap escape) : ']' ∈ text := by
  obtain ⟨c, present, inside⟩ := List.mem_flatMap.mp member
  by_cases plain : escape c = [c]
  · rw [plain, List.mem_singleton] at inside
    exact inside ▸ present
  · obtain ⟨tail, written, tailed⟩ := escaping.escaped c plain
    rw [written] at inside
    rcases List.mem_cons.mp inside with same | behind
    · exact absurd same (by decide)
    · rcases tailed with rfl | rfl | all
      · exact absurd behind (by decide)
      · exact absurd behind (by decide)
      · exact absurd (all _ behind) (by decide)

theorem length_le_flatMap (text : Text) : text.length ≤ (text.flatMap escape).length := by
  induction text with
  | nil => exact Nat.le_refl 0
  | cons c text ih =>
    have one : 1 ≤ (escape c).length := by
      by_cases plain : escape c = [c]
      · simp [plain]
      · obtain ⟨tail, written, _⟩ := escaping.escaped c plain
        simp [written]
    rw [List.flatMap_cons, List.length_append, List.length_cons]
    omega

theorem length_lt_flatMap {text : Text} (member : '\\' ∈ text) :
    text.length < (text.flatMap escape).length := by
  obtain ⟨tail, written, _⟩ := escaping.escaped _ escaping.backslash
  have filled : tail ≠ [] := fun empty => escaping.backslash (empty ▸ written)
  have two : 1 < (escape '\\').length := by
    simpa [written] using List.length_pos_iff.mpr filled
  obtain ⟨front, back, rfl⟩ := List.append_of_mem member
  have before := escaping.length_le_flatMap front
  have after := escaping.length_le_flatMap back
  simp only [List.flatMap_append, List.flatMap_cons, List.length_append, List.length_cons]
  omega

/-- A text is written as another one if one of its characters is escaped: a backslash stands for
the character then, and if there was one before, it is longer. -/
theorem flatMap_ne_of_escaped {text : Text} {c : Char} (member : c ∈ text)
    (changed : escape c ≠ [c]) : text.flatMap escape ≠ text := by
  intro same
  obtain ⟨tail, written, _⟩ := escaping.escaped c changed
  have present : '\\' ∈ text.flatMap escape :=
    List.mem_flatMap.mpr ⟨c, member, by simp [written]⟩
  rw [same] at present
  exact absurd (congrArg List.length same).symm (Nat.ne_of_lt (escaping.length_lt_flatMap present))

end IsEscaping

/-- A text without escaped characters is written as it is. -/
theorem flatMap_eq_of_shown {escape : Char → Text} {text : Text}
    (shown : ∀ c ∈ text, escape c = [c]) : text.flatMap escape = text := by
  rw [List.flatMap_congr shown, List.flatMap_singleton']

end TagQuery.Text
