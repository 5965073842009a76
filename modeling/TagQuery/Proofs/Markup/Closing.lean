import TagQuery.Proofs.Markup.Reading

/-!
# Closing what is left open

`closeUnmatched` adds as many closers to a text as openers of the name are left open in it. A
closer starts with a `<`, with which no tag goes on, so that the closers that are added neither
complete a tag that the text breaks off nor take one away from its end: the counts of the text and
those of the closers add up (`countOpeners_append_closers`, `countClosers_append_closers`).
`counts_closeUnmatched` says what follows from this for the name itself and for all other names.
-/

namespace TagQuery.Markup

/-! ## Counting in closers -/

theorem apart_closers (name : Text) (n : Nat) : Apart (List.replicate n (closer name)).flatten := by
  cases n with
  | zero => exact nofun
  | succ n =>
    rw [List.replicate_succ, List.flatten_cons]
    exact apart_closer name _

section Named
variable {name other : Text} (tag : IsTagName name) (word : ∀ c ∈ other, Text.isWord c = true)

include tag word

/-- A closer opens nothing, whatever it closes. -/
theorem countOpeners_closer_of_word : countOpeners name (closer other) = 0 := by
  have inside : '<' ∉ '/' :: (other ++ ['>']) := by
    simpa using Text.notMem_of_word word (by decide)
  rw [closer, countOpeners, startsOpener_of_slash tag, countOpeners_of_notMem inside]
  rfl

/-- A closer closes its own name and no other. -/
theorem countClosers_closer_of_word :
    countClosers name (closer other) = if Text.sameName name other then 1 else 0 := by
  have inside : '<' ∉ '/' :: (other ++ ['>']) := by
    simpa using Text.notMem_of_word word (by decide)
  have starts := startsCloser_closer tag [] word
  rw [List.append_nil, closer] at starts
  rw [closer, countClosers, starts, countClosers_of_notMem inside, Nat.add_zero]

theorem countOpeners_append_closers (text : Text) (n : Nat) :
    countOpeners name (text ++ (List.replicate n (closer other)).flatten) =
      countOpeners name text := by
  have closers : countOpeners name (List.replicate n (closer other)).flatten = 0 := by
    induction n with
    | zero => rfl
    | succ n ih =>
      rw [List.replicate_succ, List.flatten_cons, countOpeners_append tag (apart_closers other n),
        countOpeners_closer_of_word tag word, ih]
  rw [countOpeners_append tag (apart_closers other n), closers, Nat.add_zero]

theorem countClosers_append_closers (text : Text) (n : Nat) :
    countClosers name (text ++ (List.replicate n (closer other)).flatten) =
      countClosers name text + if Text.sameName name other then n else 0 := by
  have closers : countClosers name (List.replicate n (closer other)).flatten =
      if Text.sameName name other then n else 0 := by
    induction n with
    | zero => exact (ite_self 0).symm
    | succ n ih =>
      rw [List.replicate_succ, List.flatten_cons, countClosers_append tag (apart_closers other n),
        countClosers_closer_of_word tag word, ih]
      split
      · exact Nat.add_comm 1 n
      · rfl
  rw [countClosers_append tag (apart_closers other n), closers]

end Named

/-! ## Closing -/

/-- What closing does to a text, whatever state the text ends in: it adds the closers that are
missing, after which nothing is missing, and touches neither the openers nor the tags of any other
name. -/
theorem counts_closeUnmatched {name : Text} (tag : IsTagName name) (text : Text) :
    let closed := closeUnmatched name text
    closed = text ++
        (List.replicate (countOpeners name text - countClosers name text) (closer name)).flatten ∧
      text <+: closed ∧
      countOpeners name closed = countOpeners name text ∧
      countClosers name closed = max (countOpeners name text) (countClosers name text) ∧
      closeUnmatched name closed = closed ∧
      ∀ other, IsTagName other → Text.sameName other name = false →
        countOpeners other closed = countOpeners other text ∧
          countClosers other closed = countClosers other text := by
  have openers : countOpeners name (closeUnmatched name text) = countOpeners name text :=
    countOpeners_append_closers tag tag.word text _
  have closers : countClosers name (closeUnmatched name text) =
      max (countOpeners name text) (countClosers name text) := by
    rw [closeUnmatched, countClosers_append_closers tag tag.word, Text.sameName_refl, if_pos rfl]
    omega
  have enough : countOpeners name (closeUnmatched name text) ≤
      countClosers name (closeUnmatched name text) := by
    rw [openers, closers]
    exact Nat.le_max_left _ _
  refine ⟨rfl, List.prefix_append .., openers, closers, closeUnmatched_of_le enough, ?_⟩
  intro other otherTag apart
  constructor
  · exact countOpeners_append_closers otherTag tag.word text _
  · rw [closeUnmatched, countClosers_append_closers otherTag tag.word, apart,
      if_neg Bool.false_ne_true, Nat.add_zero]

/-- Of a text that breaks off in a closer and in an opener the opener counts and the closer does
not. -/
theorem counts_closeUnmatched_broken :
    let name := "na".toList
    let text := "<na><NA x></na></na<na".toList
    let closed := "<na><NA x></na></na<na</na></na>".toList
    IsTagName name ∧ closeUnmatched name text = closed ∧ countOpeners name closed = 3 ∧
      countClosers name closed = 3 ∧ closeUnmatched name closed = closed ∧
      countClosers "n".toList closed = 0 := by
  intro name text closed
  have tag : IsTagName name := by decide
  have same : closeUnmatched name text = closed := by decide
  obtain ⟨_, _, openers, closers, again, others⟩ := counts_closeUnmatched tag text
  rw [same] at openers closers again others
  obtain ⟨_, apart⟩ := others "n".toList (by decide) (by decide)
  exact ⟨tag, same, openers.trans (by decide), closers.trans (by decide), again,
    apart.trans (by decide)⟩

end TagQuery.Markup
