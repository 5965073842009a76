import TagQuery.Markup.Tag
import TagQuery.Proofs.Text.Cutting

/-!
# Balanced closers

Openers and closers of a name are read off the characters that follow a `<`. Neither goes on with
a second `<`, so a text may be cut before any `<` without losing or making one: both counts add up
over such a cut (`countOpeners_append`, `countClosers_append`). The same is true of a cut before
any other character of which no tag is made (`Apart`).

A closer balances an opener in front of it if, up to its end, there is one more closer than there
are openers (`Balances`). `balance` carries a depth along the text and stops where it would become
negative. `balance_eq_some_iff` and `balance_eq_none_iff` say that this is the first closer that
balances, and that there is no result only if no closer does.
-/

namespace TagQuery.Markup

/-- A tag name: one or more word characters. -/
structure IsTagName (name : Text) : Prop where
  nonempty : name ≠ []
  word : ∀ c ∈ name, Text.isWord c = true

instance (name : Text) : Decidable (IsTagName name) :=
  decidable_of_iff (name ≠ [] ∧ ∀ c ∈ name, Text.isWord c = true)
    ⟨fun ⟨nonempty, word⟩ => ⟨nonempty, word⟩, fun tag => ⟨tag.nonempty, tag.word⟩⟩

/-- A text that does not go on with an opener or a closer in front of it. -/
def Apart (text : Text) : Prop := ∀ c ∈ text.head?, Text.isWord c = false ∧ c ≠ '/' ∧ c ≠ '>'

theorem apart_of_cons {c : Char} (mark : Text.isWord c = false ∧ c ≠ '/' ∧ c ≠ '>') (rest : Text) :
    Apart (c :: rest) := fun _ first => Option.some.inj first ▸ mark

/-- Nothing goes on with a `<`. -/
theorem apart_markup (rest : Text) : Apart ('<' :: rest) := apart_of_cons (by decide) rest

theorem apart_closer (name rest : Text) : Apart (closer name ++ rest) := apart_markup _

theorem Apart.append {text : Text} (apart : Apart text) (filled : text ≠ []) (rest : Text) :
    Apart (text ++ rest) := by
  obtain ⟨c, more, rfl⟩ := List.exists_cons_of_ne_nil filled
  exact apart_of_cons (apart c rfl) (more ++ rest)

/-! ## Openers and closers at the start of a text -/

theorem startsCloser_iff {name text : Text} :
    startsCloser name text = true ↔
      ∃ spelling rest, Text.sameName name spelling = true ∧ text = closer spelling ++ rest := by
  unfold startsCloser
  split
  · rename_i rest
    constructor
    · intro starts
      split at starts
      · rename_i after found
        obtain ⟨spelling, same, rfl⟩ := Text.stripIgnoringCase?_eq_some_iff.mp found
        exact ⟨spelling, after, same, by simp [closer]⟩
      · cases starts
    · rintro ⟨spelling, after, same, whole⟩
      have inside : rest = spelling ++ '>' :: after := by simpa [closer] using whole
      have found := Text.stripIgnoringCase?_eq_some_iff.mpr ⟨spelling, same, inside⟩
      simp only [found]
  · rename_i other
    constructor
    · intro starts
      cases starts
    · rintro ⟨spelling, rest, _, rfl⟩
      exact (other _ rfl).elim

theorem startsOpener_iff {name text : Text} :
    startsOpener name text = true ↔
      ∃ spelling rest, Text.sameName name spelling = true ∧ text = '<' :: (spelling ++ rest) ∧
        ∀ c ∈ rest.head?, Text.isWord c = false := by
  unfold startsOpener
  split
  · rename_i text
    constructor
    · intro starts
      split at starts
      · rename_i c rest found
        obtain ⟨spelling, same, rfl⟩ := Text.stripIgnoringCase?_eq_some_iff.mp found
        exact ⟨spelling, c :: rest, same, rfl, by simpa using starts⟩
      · rename_i found
        obtain ⟨spelling, same, rfl⟩ := Text.stripIgnoringCase?_eq_some_iff.mp found
        exact ⟨spelling, [], same, rfl, by simp⟩
      · cases starts
    · rintro ⟨spelling, rest, same, whole, ends⟩
      have found := Text.stripIgnoringCase?_eq_some_iff.mpr ⟨spelling, same, (List.cons.inj whole).2⟩
      cases rest with
      | nil => simp only [found]
      | cons c rest => simp [found, ends c rfl]
  · rename_i other
    constructor
    · intro starts
      cases starts
    · rintro ⟨spelling, rest, _, rfl, _⟩
      exact (other _ rfl).elim

theorem startsOpener_of_ne {name rest : Text} {c : Char} (other : c ≠ '<') :
    startsOpener name (c :: rest) = false := by
  rw [← Bool.not_eq_true, startsOpener_iff]
  rintro ⟨_, _, _, whole, _⟩
  exact other (List.cons.inj whole).1

theorem startsCloser_of_ne {name rest : Text} {c : Char} (other : c ≠ '<') :
    startsCloser name (c :: rest) = false := by
  rw [← Bool.not_eq_true, startsCloser_iff]
  rintro ⟨_, _, _, whole⟩
  exact other (List.cons.inj whole).1

/-- A name follows the `<` of no closer. -/
theorem startsCloser_of_name {name other rest : Text} (tag : IsTagName other) :
    startsCloser name ('<' :: (other ++ rest)) = false := by
  rw [← Bool.not_eq_true, startsCloser_iff]
  rintro ⟨spelling, after, _, whole⟩
  obtain ⟨c, inner, rfl⟩ := List.exists_cons_of_ne_nil tag.nonempty
  have slash : c = '/' := (List.cons.inj (List.cons.inj whole).2).1
  have word := tag.word c List.mem_cons_self
  rw [slash] at word
  exact absurd word (by decide)

theorem apart_of_startsCloser {name text : Text} (starts : startsCloser name text = true) :
    Apart text := by
  obtain ⟨spelling, rest, _, rfl⟩ := startsCloser_iff.mp starts
  exact apart_closer spelling rest

section Named
variable {name : Text} (tag : IsTagName name)

include tag

/-- A character that is not a word character starts no name. -/
theorem startsOpener_of_mark {c : Char} (mark : Text.isWord c = false) (rest : Text) :
    startsOpener name ('<' :: c :: rest) = false := by
  rw [← Bool.not_eq_true, startsOpener_iff]
  rintro ⟨spelling, after, same, whole, _⟩
  cases spelling with
  | nil => exact tag.nonempty (List.length_eq_zero_iff.mp (Text.length_eq_of_sameName same))
  | cons d spelling =>
    have first : c = d := (List.cons.inj (List.cons.inj whole).2).1
    have word := Text.isWord_of_sameName same tag.word d List.mem_cons_self
    rw [← first, mark] at word
    cases word

/-- The slash of a closer does not belong to a name. -/
theorem startsOpener_of_slash (rest : Text) : startsOpener name ('<' :: '/' :: rest) = false :=
  startsOpener_of_mark tag (by decide) rest

theorem startsOpener_of_startsCloser {text : Text} (starts : startsCloser name text = true) :
    startsOpener name text = false := by
  obtain ⟨spelling, rest, _, rfl⟩ := startsCloser_iff.mp starts
  exact startsOpener_of_slash tag _

/-- A tag opens exactly the names that are its own in some case. -/
theorem startsOpener_name {other rest : Text} (word : ∀ c ∈ other, Text.isWord c = true)
    (ends : ∀ c ∈ rest.head?, Text.isWord c = false) :
    startsOpener name ('<' :: (other ++ rest)) = Text.sameName name other := by
  rw [Bool.eq_iff_iff, startsOpener_iff]
  constructor
  · rintro ⟨spelling, after, same, whole, stop⟩
    have run := Text.takeWhile_run (Text.isWord_of_sameName same tag.word) stop
    rw [← (List.cons.inj whole).2, Text.takeWhile_run word ends] at run
    rw [run]
    exact same
  · intro same
    exact ⟨other, rest, same, rfl, ends⟩

theorem startsCloser_closer {other : Text} (rest : Text)
    (word : ∀ c ∈ other, Text.isWord c = true) :
    startsCloser name (closer other ++ rest) = Text.sameName name other := by
  have stop (after : Text) : ∀ c ∈ ('>' :: after).head?, Text.isWord c = false :=
    Text.stop_of_cons (by decide) after
  rw [Bool.eq_iff_iff, startsCloser_iff]
  constructor
  · rintro ⟨spelling, after, same, whole⟩
    have run := Text.takeWhile_run (Text.isWord_of_sameName same tag.word) (stop after)
    have tails : other ++ '>' :: rest = spelling ++ '>' :: after := by simpa [closer] using whole
    rw [← tails, Text.takeWhile_run word (stop rest)] at run
    rw [run]
    exact same
  · intro same
    exact ⟨other, rest, same, rfl⟩

/-- A closer holds no other tag. -/
theorem notMem_tail_closer {spelling : Text} (same : Text.sameName name spelling = true) :
    '<' ∉ '/' :: (spelling ++ ['>']) := by
  have word := Text.isWord_of_sameName same tag.word
  simpa using Text.notMem_of_word word (by decide)

/-- Whether an opener starts here does not depend on what stands apart from it. -/
theorem startsOpener_append {c : Char} {front back : Text} (apart : Apart back) :
    startsOpener name (c :: (front ++ back)) = startsOpener name (c :: front) := by
  rw [Bool.eq_iff_iff, startsOpener_iff, startsOpener_iff]
  constructor
  · rintro ⟨spelling, rest, same, whole, ends⟩
    obtain ⟨rfl, later⟩ := List.cons.inj whole
    have word := Text.isWord_of_sameName same tag.word
    obtain ⟨middle, rfl, rfl⟩ := Text.exists_append_of_append_eq later.symm fun c first =>
      Text.notMem_of_word word (apart c first).1
    refine ⟨spelling, middle, same, rfl, ?_⟩
    cases middle with
    | nil => simp
    | cons d middle => exact ends
  · rintro ⟨spelling, rest, same, whole, ends⟩
    obtain ⟨rfl, rfl⟩ := List.cons.inj whole
    refine ⟨spelling, rest ++ back, same, by rw [List.append_assoc], ?_⟩
    cases rest with
    | nil => exact fun c first => (apart c first).1
    | cons d rest => exact ends

/-- Whether a closer starts here does not depend on what stands apart from it. -/
theorem startsCloser_append {c : Char} {front back : Text} (apart : Apart back) :
    startsCloser name (c :: (front ++ back)) = startsCloser name (c :: front) := by
  rw [Bool.eq_iff_iff, startsCloser_iff, startsCloser_iff]
  constructor
  · rintro ⟨spelling, rest, same, whole⟩
    obtain ⟨rfl, later⟩ := List.cons.inj whole
    have word := Text.isWord_of_sameName same tag.word
    obtain ⟨middle, rfl, _⟩ := Text.exists_append_of_append_eq later.symm fun c first => by
      obtain ⟨mark, slash, greater⟩ := apart c first
      simpa [slash, greater] using Text.notMem_of_word word mark
    exact ⟨spelling, middle, same, rfl⟩
  · rintro ⟨spelling, rest, same, whole⟩
    refine ⟨spelling, rest ++ back, same, ?_⟩
    rw [← List.append_assoc, ← whole, List.cons_append]

/-- Where a further `<` follows, the text behind it does not matter. -/
theorem starts_of_prefix {c : Char} {front text : Text} (within : front <+: text)
    (markup : '<' ∈ front) :
    startsOpener name (c :: text) = startsOpener name (c :: front) ∧
      startsCloser name (c :: text) = startsCloser name (c :: front) := by
  obtain ⟨before, after, rfl⟩ := List.append_of_mem markup
  obtain ⟨rest, rfl⟩ := within
  have longer := apart_markup (after ++ rest)
  have shorter := apart_markup after
  rw [List.append_assoc, List.cons_append]
  exact ⟨(startsOpener_append tag longer).trans (startsOpener_append tag shorter).symm,
    (startsCloser_append tag longer).trans (startsCloser_append tag shorter).symm⟩

end Named

/-! ## Counting -/

theorem countOpeners_append_of_notMem {name run : Text} (absent : '<' ∉ run) (rest : Text) :
    countOpeners name (run ++ rest) = countOpeners name rest := by
  induction run with
  | nil => rfl
  | cons c run ih =>
    obtain ⟨other, later⟩ := not_or.mp (mt List.mem_cons.mpr absent)
    rw [List.cons_append, countOpeners, startsOpener_of_ne (Ne.symm other), ih later]
    exact Nat.zero_add _

theorem countOpeners_of_notMem {name text : Text} (absent : '<' ∉ text) :
    countOpeners name text = 0 := by
  rw [← List.append_nil text, countOpeners_append_of_notMem absent]
  rfl

theorem countClosers_of_notMem {name text : Text} (absent : '<' ∉ text) :
    countClosers name text = 0 := by
  induction text with
  | nil => rfl
  | cons c text ih =>
    obtain ⟨other, later⟩ := not_or.mp (mt List.mem_cons.mpr absent)
    rw [countClosers, startsCloser_of_ne (Ne.symm other), ih later]
    rfl

section Named
variable {name : Text} (tag : IsTagName name)

include tag

theorem countOpeners_append {front back : Text} (apart : Apart back) :
    countOpeners name (front ++ back) = countOpeners name front + countOpeners name back := by
  induction front with
  | nil => exact (Nat.zero_add _).symm
  | cons c front ih =>
    rw [List.cons_append, countOpeners, countOpeners, startsOpener_append tag apart, ih,
      Nat.add_assoc]

theorem countClosers_append {front back : Text} (apart : Apart back) :
    countClosers name (front ++ back) = countClosers name front + countClosers name back := by
  induction front with
  | nil => exact (Nat.zero_add _).symm
  | cons c front ih =>
    rw [List.cons_append, countClosers, countClosers, startsCloser_append tag apart, ih,
      Nat.add_assoc]

theorem countOpeners_closer {spelling : Text} (same : Text.sameName name spelling = true) :
    countOpeners name (closer spelling) = 0 := by
  have starts := startsCloser_iff.mpr ⟨spelling, [], same, (List.append_nil _).symm⟩
  have opens := startsOpener_of_startsCloser tag starts
  rw [closer] at opens ⊢
  rw [countOpeners, opens, countOpeners_of_notMem (notMem_tail_closer tag same)]
  rfl

theorem countClosers_closer {spelling : Text} (same : Text.sameName name spelling = true) :
    countClosers name (closer spelling) = 1 := by
  have starts := startsCloser_iff.mpr ⟨spelling, [], same, (List.append_nil _).symm⟩
  rw [closer] at starts ⊢
  rw [countClosers, starts, countClosers_of_notMem (notMem_tail_closer tag same)]
  rfl

end Named

/-! ## The closer that balances -/

/-- The closer after a body balances an opener of the name in front of the body: up to its end
there is one more closer than there are openers. -/
structure Balances (name body closing : Text) : Prop where
  closes : ∃ spelling, Text.sameName name spelling = true ∧ closing = closer spelling
  counts : countClosers name (body ++ closing) = countOpeners name (body ++ closing) + 1

theorem Balances.length_closing {name body closing : Text} (balances : Balances name body closing) :
    closing.length = name.length + 3 := by
  obtain ⟨spelling, same, rfl⟩ := balances.closes
  simp [closer, Text.length_eq_of_sameName same]

/-- The closer after a body is the first in a text that balances an opener in front of the text. -/
structure BalancesFirst (name text body closing : Text) : Prop where
  balances : Balances name body closing
  within : body ++ closing <+: text
  first : ∀ other tag, other ++ tag <+: text → Balances name other tag → body.length ≤ other.length

section Step
variable {name rest : Text} {depth : Nat} {c : Char}

theorem balance_of_closer_zero (closes : startsCloser name (c :: rest) = true) :
    balance name 0 (c :: rest) = some ([], c :: rest) := by
  rw [balance, if_pos closes]

theorem balance_of_closer_succ (closes : startsCloser name (c :: rest) = true) :
    balance name (depth + 1) (c :: rest) =
      (balance name depth rest).map fun (body, after) => (c :: body, after) := by
  rw [balance, if_pos closes]

theorem balance_of_opener (closes : startsCloser name (c :: rest) = false)
    (opens : startsOpener name (c :: rest) = true) :
    balance name depth (c :: rest) =
      (balance name (depth + 1) rest).map fun (body, after) => (c :: body, after) := by
  simp only [balance, closes, opens, Bool.false_eq_true, ↓reduceIte]

theorem balance_of_neither (closes : startsCloser name (c :: rest) = false)
    (opens : startsOpener name (c :: rest) = false) :
    balance name depth (c :: rest) =
      (balance name depth rest).map fun (body, after) => (c :: body, after) := by
  simp only [balance, closes, opens, Bool.false_eq_true, ↓reduceIte]

end Step

section Named
variable {name : Text} (tag : IsTagName name)

include tag

theorem balances_iff {body closing : Text} :
    Balances name body closing ↔
      (∃ spelling, Text.sameName name spelling = true ∧ closing = closer spelling) ∧
        countClosers name body = countOpeners name body := by
  have add {spelling : Text} (same : Text.sameName name spelling = true) :
      countClosers name (body ++ closer spelling) = countClosers name body + 1 ∧
        countOpeners name (body ++ closer spelling) = countOpeners name body := by
    have apart : Apart (closer spelling) := apart_markup _
    rw [countClosers_append tag apart, countOpeners_append tag apart,
      countClosers_closer tag same, countOpeners_closer tag same]
    exact ⟨rfl, rfl⟩
  constructor
  · rintro ⟨⟨spelling, same, rfl⟩, counts⟩
    obtain ⟨closers, openers⟩ := add same
    exact ⟨⟨spelling, same, rfl⟩, by omega⟩
  · rintro ⟨⟨spelling, same, rfl⟩, counts⟩
    obtain ⟨closers, openers⟩ := add same
    exact ⟨⟨spelling, same, rfl⟩, by omega⟩

/-- At a closer that nothing in between has opened the search stops. Otherwise it goes on, deeper
by one after an opener and less deep by one after a closer. -/
theorem balance_cons (depth : Nat) (c : Char) (rest : Text) :
    (startsCloser name (c :: rest) = true ∧ depth = 0 ∧
        balance name depth (c :: rest) = some ([], c :: rest)) ∨
      ∃ deeper, balance name depth (c :: rest) =
          (balance name deeper rest).map (fun (body, after) => (c :: body, after)) ∧
        deeper + (if startsCloser name (c :: rest) then 1 else 0) =
          depth + (if startsOpener name (c :: rest) then 1 else 0) := by
  cases closes : startsCloser name (c :: rest) with
  | true =>
    have opens := startsOpener_of_startsCloser tag closes
    cases depth with
    | zero => exact .inl ⟨rfl, rfl, balance_of_closer_zero closes⟩
    | succ depth => exact .inr ⟨depth, balance_of_closer_succ closes, by simp [opens]⟩
  | false =>
    right
    cases opens : startsOpener name (c :: rest) with
    | true => exact ⟨depth + 1, balance_of_opener closes opens, rfl⟩
    | false => exact ⟨depth, balance_of_neither closes opens, rfl⟩

/-- What the search cuts off is followed by a closer, and has as many closers more than openers as
the search started deep. -/
theorem counts_of_balance {depth : Nat} {text body after : Text}
    (found : balance name depth text = some (body, after)) :
    startsCloser name after = true ∧
      countClosers name body = countOpeners name body + depth := by
  induction text generalizing depth body with
  | nil => cases found
  | cons c rest ih =>
    rcases balance_cons tag depth c rest with ⟨closes, rfl, stop⟩ | ⟨deeper, step, moved⟩
    · rw [stop] at found
      cases found
      exact ⟨closes, rfl⟩
    · rw [step] at found
      obtain ⟨⟨inner, tail⟩, cut, same⟩ := Option.map_eq_some_iff.mp found
      cases same
      obtain ⟨ends, counts⟩ := ih cut
      -- What stands in front of the closer looks the same whether or not the closer follows.
      have apart := apart_of_startsCloser ends
      rw [← append_of_balance cut, startsCloser_append tag apart,
        startsOpener_append tag apart] at moved
      rw [countClosers, countOpeners]
      exact ⟨ends, by omega⟩

/-- The search comes to a result before any closer that is surplus at its depth. -/
theorem exists_balance {depth : Nat} {body after : Text} (closes : startsCloser name after = true)
    (surplus : countOpeners name body + depth ≤ countClosers name body) :
    ∃ front back, balance name depth (body ++ after) = some (front, back) ∧
      front.length ≤ body.length := by
  have apart := apart_of_startsCloser closes
  induction body generalizing depth with
  | nil =>
    obtain rfl : depth = 0 := by simpa [countOpeners, countClosers] using surplus
    obtain ⟨spelling, rest, _, rfl⟩ := startsCloser_iff.mp closes
    exact ⟨[], _, balance_of_closer_zero closes, Nat.le_refl _⟩
  | cons c body ih =>
    rw [countOpeners, countClosers, ← startsOpener_append tag apart,
      ← startsCloser_append tag apart] at surplus
    rcases balance_cons tag depth c (body ++ after) with ⟨_, _, stop⟩ | ⟨deeper, step, moved⟩
    · exact ⟨[], _, stop, Nat.zero_le _⟩
    · have enough : countOpeners name body + deeper ≤ countClosers name body := by omega
      obtain ⟨front, back, found, shorter⟩ := ih enough
      refine ⟨c :: front, back, ?_, Nat.succ_le_succ shorter⟩
      rw [List.cons_append, step, found]
      rfl

private theorem exists_balance_of_balances {text body closing : Text}
    (within : body ++ closing <+: text) (balances : Balances name body closing) :
    ∃ front back, balance name 0 text = some (front, back) ∧ front.length ≤ body.length := by
  obtain ⟨rest, rfl⟩ := within
  obtain ⟨⟨spelling, same, rfl⟩, counts⟩ := (balances_iff tag).mp balances
  rw [List.append_assoc]
  exact exists_balance tag (startsCloser_iff.mpr ⟨spelling, rest, same, rfl⟩) counts.ge

/-- The search stops at the first closer that balances. -/
theorem balance_eq_some_iff {text body after : Text} :
    balance name 0 text = some (body, after) ↔
      ∃ closing rest, after = closing ++ rest ∧ text = body ++ after ∧
        BalancesFirst name text body closing := by
  constructor
  · intro found
    have whole := append_of_balance found
    obtain ⟨closes, counts⟩ := counts_of_balance tag found
    obtain ⟨spelling, rest, same, rfl⟩ := startsCloser_iff.mp closes
    refine ⟨closer spelling, rest, rfl, whole.symm, ?_, ⟨rest, by simpa using whole⟩, ?_⟩
    · exact (balances_iff tag).mpr ⟨⟨spelling, same, rfl⟩, counts⟩
    · intro other tail within balances
      obtain ⟨front, back, again, shorter⟩ := exists_balance_of_balances tag within balances
      rw [found] at again
      cases again
      exact shorter
  · rintro ⟨closing, rest, rfl, whole, first⟩
    obtain ⟨front, back, found, shorter⟩ :=
      exists_balance_of_balances tag first.within first.balances
    have split := append_of_balance found
    obtain ⟨closes, counts⟩ := counts_of_balance tag found
    obtain ⟨spelling, tail, same, rfl⟩ := startsCloser_iff.mp closes
    have least := first.first front (closer spelling) ⟨tail, by simpa using split⟩
      ((balances_iff tag).mpr ⟨⟨spelling, same, rfl⟩, counts⟩)
    obtain ⟨rfl, same⟩ := List.append_inj (split.trans whole) (Nat.le_antisymm shorter least)
    rw [found, same]

/-- There is no result only if no closer balances. -/
theorem balance_eq_none_iff {text : Text} :
    balance name 0 text = none ↔
      ∀ body closing, body ++ closing <+: text → ¬ Balances name body closing := by
  constructor
  · intro absent body closing within balances
    obtain ⟨front, back, found, _⟩ := exists_balance_of_balances tag within balances
    rw [absent] at found
    cases found
  · intro absent
    cases found : balance name 0 text with
    | none => rfl
    | some result =>
      obtain ⟨body, after⟩ := result
      obtain ⟨closing, rest, _, _, first⟩ := (balance_eq_some_iff tag).mp found
      exact (absent body closing first.within first.balances).elim

end Named

end TagQuery.Markup
