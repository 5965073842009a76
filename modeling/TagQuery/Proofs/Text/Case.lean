import TagQuery.Proofs.Text.Cutting

/-!
# Cuts of lower-cased texts

Markup means the same in capitals as in small letters. What is said here of texts is that each cut
finds the same place in a text and in its lower-case form: a run of a class that holds both cases of
a letter or neither (`CaseBlind`), the first occurrence of a mark or of a pattern of marks, and a
name compared without regard to case.
-/

namespace TagQuery.Text

/-! ## Characters -/

/-- A class of characters that does not tell a capital from its small letter. -/
def CaseBlind (p : Char → Bool) : Prop := ∀ c, p c.toLower = p c

/-- A class is blind to case if it holds all letters or none. -/
theorem caseBlind_of_letters {p : Char → Bool} {b : Bool}
    (letters : ∀ c, c.isAlpha = true → p c = b) : CaseBlind p := by
  intro c
  by_cases upper : c.isUpper = true
  · have capital := letters c (isAlpha_of_case (.inl upper))
    have small := letters c.toLower (isAlpha_of_case (.inr (isLower_toLower upper)))
    rw [capital, small]
  · rw [toLower_of_not_isUpper upper]

theorem CaseBlind.not {p : Char → Bool} (blind : CaseBlind p) : CaseBlind (!p ·) :=
  fun c => congrArg (!·) (blind c)

theorem caseBlind_bne {mark : Char} (plain : mark.isAlpha = false) : CaseBlind (· != mark) := by
  apply caseBlind_of_letters (b := true)
  intro c alpha
  apply bne_iff_ne.mpr
  rintro rfl
  rw [plain] at alpha
  cases alpha

/-- No other character than itself has a mark as its small form. -/
theorem toLower_eq_mark_iff {c mark : Char} (plain : mark.isAlpha = false) :
    c.toLower = mark ↔ c = mark := by
  have blind := caseBlind_bne plain c
  rwa [Bool.eq_iff_iff, bne_iff_ne, bne_iff_ne, not_iff_not] at blind

theorem toLower_ne_mark {c mark : Char} (plain : mark.isAlpha = false) (other : c ≠ mark) :
    c.toLower ≠ mark := mt (toLower_eq_mark_iff plain).mp other

theorem toLower_of_mark {mark : Char} (plain : mark.isAlpha = false) : mark.toLower = mark :=
  (toLower_eq_mark_iff plain).mpr rfl

theorem caseBlind_isBlank : CaseBlind isBlank := caseBlind_of_letters fun _ => isBlank_of_isAlpha

theorem caseBlind_isSpace : CaseBlind isSpace := by
  apply caseBlind_of_letters (b := false)
  intro c alpha
  rw [← Bool.not_eq_true]
  intro space
  have blank := isBlank_of_isSpace space
  rw [isBlank_of_isAlpha alpha] at blank
  cases blank

theorem caseBlind_isWord : CaseBlind isWord := isWord_toLower

/-! ## Names -/

theorem lower_lower (text : Text) : lower (lower text) = lower text := by
  simp only [lower, List.map_map, Function.comp_def, toLower_toLower]

@[simp] theorem sameName_lower_left (first second : Text) :
    sameName (lower first) second = sameName first second := by
  rw [sameName, sameName, lower_lower]

@[simp] theorem sameName_lower_right (first second : Text) :
    sameName first (lower second) = sameName first second := by
  rw [sameName, sameName, lower_lower]

/-! ## Lists of characters -/

@[simp] theorem lower_nil : lower [] = [] := rfl

@[simp] theorem lower_cons (c : Char) (text : Text) : lower (c :: text) = c.toLower :: lower text :=
  rfl

@[simp] theorem lower_append (first second : Text) :
    lower (first ++ second) = lower first ++ lower second := List.map_append

theorem lower_flatten (texts : List Text) : lower texts.flatten = (texts.map lower).flatten :=
  List.map_flatten

@[simp] theorem length_lower (text : Text) : (lower text).length = text.length := List.length_map _

@[simp] theorem isEmpty_lower (text : Text) : (lower text).isEmpty = text.isEmpty :=
  List.isEmpty_map

theorem drop_lower (n : Nat) (text : Text) : (lower text).drop n = lower (text.drop n) :=
  List.map_drop.symm

theorem take_lower (n : Nat) (text : Text) : (lower text).take n = lower (text.take n) :=
  List.map_take.symm

theorem dropLast_lower (text : Text) : (lower text).dropLast = lower text.dropLast :=
  List.map_dropLast.symm

theorem reverse_lower (text : Text) : (lower text).reverse = lower text.reverse :=
  List.map_reverse.symm

section Run
variable {p : Char → Bool} (blind : CaseBlind p)

include blind

theorem takeWhile_lower (text : Text) :
    (lower text).takeWhile p = lower (text.takeWhile p) := by
  rw [lower, List.takeWhile_map, show p ∘ Char.toLower = p from funext blind, lower]

theorem dropWhile_lower (text : Text) :
    (lower text).dropWhile p = lower (text.dropWhile p) := by
  rw [lower, List.dropWhile_map, show p ∘ Char.toLower = p from funext blind, lower]

theorem filter_lower (text : Text) : (lower text).filter p = lower (text.filter p) := by
  rw [lower, List.filter_map, show p ∘ Char.toLower = p from funext blind, lower]

end Run

/-- A run ends in small letters where it ends. -/
theorem stop_lower {p : Char → Bool} (blind : CaseBlind p) {text : Text}
    (stop : ∀ c ∈ text.head?, p c = false) : ∀ c ∈ (lower text).head?, p c = false := by
  cases text with
  | nil => exact nofun
  | cons c text => exact stop_of_cons ((blind c).trans (stop c rfl)) (lower text)

theorem skipSpace_lower (text : Text) : skipSpace (lower text) = lower (skipSpace text) :=
  dropWhile_lower caseBlind_isSpace text

theorem trim_lower (text : Text) : trim (lower text) = lower (trim text) := by
  rw [trim, trimStart, dropWhile_lower caseBlind_isBlank, trimEnd, reverse_lower,
    dropWhile_lower caseBlind_isBlank, reverse_lower]
  rfl

theorem mem_lower_iff {mark : Char} (plain : mark.isAlpha = false) {text : Text} :
    mark ∈ lower text ↔ mark ∈ text := by
  rw [lower, List.mem_map]
  constructor
  · rintro ⟨c, member, small⟩
    rwa [← (toLower_eq_mark_iff plain).mp small]
  · intro member
    exact ⟨mark, member, toLower_of_mark plain⟩

/-! ## Cuts -/

theorem splitAfter?_lower {stop : Char} (plain : stop.isAlpha = false) (text : Text) :
    splitAfter? stop (lower text) = (splitAfter? stop text).map (Prod.map lower lower) := by
  have blind := caseBlind_bne plain
  rw [splitAfter?, splitAfter?, takeWhile_lower blind, dropWhile_lower blind]
  cases text.dropWhile (· != stop) with
  | nil => rfl
  | cons c rest => simp

section Pattern
variable {pattern : Text} (marks : ∀ c ∈ pattern, c.isAlpha = false)

include marks

theorem lower_of_marks : lower pattern = pattern :=
  calc
    lower pattern = pattern.map id :=
      List.map_congr_left fun c member => toLower_of_mark (marks c member)
    _ = pattern := List.map_id pattern

theorem strip?_lower (text : Text) :
    strip? pattern (lower text) = (strip? pattern text).map lower := by
  induction pattern generalizing text with
  | nil => rfl
  | cons p pattern ih =>
    cases text with
    | nil => rfl
    | cons c text =>
      obtain ⟨plain, later⟩ := List.forall_mem_cons.mp marks
      have same : p = c.toLower ↔ p = c := by
        rw [eq_comm, toLower_eq_mark_iff plain, eq_comm]
      simp only [lower_cons, strip?, same, ih later]
      split <;> rfl

theorem startsWith_lower (text : Text) :
    startsWith pattern (lower text) = startsWith pattern text := by
  rw [startsWith, startsWith, strip?_lower marks, Option.isSome_map]

theorem splitAfterPattern?_lower (text : Text) :
    splitAfterPattern? pattern (lower text) =
      (splitAfterPattern? pattern text).map (Prod.map lower lower) := by
  have small := lower_of_marks marks
  induction text with
  | nil =>
    rw [lower_nil, splitAfterPattern?]
    cases found : strip? pattern [] with
    | none => rfl
    | some rest =>
      obtain ⟨_, rfl⟩ := List.append_eq_nil_iff.mp (strip?_eq_some_iff.mp found).symm
      simp [small]
  | cons c text ih =>
    have stripped := strip?_lower marks (c :: text)
    rw [lower_cons] at stripped ⊢
    rw [splitAfterPattern?, splitAfterPattern?, stripped, ih]
    cases strip? pattern (c :: text) with
    | none =>
      simp only [Option.map_none, Option.map_map]
      rfl
    | some rest => simp [small]

theorem beforeLast?_lower (text : Text) :
    beforeLast? pattern (lower text) = (beforeLast? pattern text).map lower := by
  induction text with
  | nil => rfl
  | cons c text ih =>
    have starts := startsWith_lower marks (c :: text)
    rw [lower_cons] at starts ⊢
    rw [beforeLast?, beforeLast?, ih, starts]
    cases beforeLast? pattern text with
    | some front => rfl
    | none =>
      dsimp only [Option.map_none]
      split <;> rfl

end Pattern

theorem stripIgnoringCase?_lower (name text : Text) :
    stripIgnoringCase? (lower name) (lower text) = (stripIgnoringCase? name text).map lower := by
  induction name generalizing text with
  | nil => rfl
  | cons p name ih =>
    cases text with
    | nil => rfl
    | cons c text =>
      simp only [lower_cons, stripIgnoringCase?, toLower_toLower, ih]
      split <;> rfl

end TagQuery.Text
