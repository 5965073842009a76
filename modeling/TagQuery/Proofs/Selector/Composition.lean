import TagQuery.Proofs.Selector.Acceptance

/-!
# Composing selectors

Two selectors with `>` between them make a longer chain, if the parser cuts at that `>`. A reader
of a link never looks past what it reads, so that the links of the first selector are read as they
were; where they are cut is decided from the left, by the brackets and the quotation marks that are
open. `parse_append` says that nothing else matters: if the first selector ends outside of them
the two compose, and otherwise nothing at all is read.

A selector that is accepted need not end outside. A value that is not quoted may contain a
quotation mark, which opens a quotation for the cutting only.
-/

namespace TagQuery.Selector

open Grammar

/-! ## Readers do not look ahead

What is appended starts with `>`, which is no part of a name and no white space.
-/

section Ahead
variable (more : Text)

theorem skipSpace_append (text : Text) :
    Text.skipSpace (text ++ '>' :: more) = Text.skipSpace text ++ '>' :: more :=
  (Text.run_append text ('>' :: more) fun _ => Text.stop_of_cons (by decide) more).2

theorem readIdentifier_append {mark : Char} {text name rest : Text}
    (read : readIdentifier mark text = .ok (name, rest)) :
    readIdentifier mark (text ++ '>' :: more) = .ok (name, rest ++ '>' :: more) := by
  have stop : isIdentChar '>' = false := by decide
  obtain ⟨run, left⟩ := Text.run_append (Text.skipSpace text) ('>' :: more)
    fun _ => Text.stop_of_cons stop more
  unfold readIdentifier at read ⊢
  dsimp only at read ⊢
  rw [skipSpace_append, run, left]
  split at read
  · cases read
  · rename_i nonempty
    cases read
    rw [if_neg nonempty]

theorem readQuoted_append {name : Text} {mode : MatchMode} {mark : Char} {text rest : Text}
    {condition : Condition}
    (read : readExpected.readQuoted name mode mark text = .ok (condition, rest)) :
    readExpected.readQuoted name mode mark (text ++ '>' :: more) =
      .ok (condition, rest ++ '>' :: more) := by
  obtain ⟨content, after, closed, rfl, rfl⟩ := readQuoted_sound read
  have whole : content ++ mark :: (after.text ++ ']' :: rest) ++ '>' :: more =
      content ++ mark :: (after.text ++ ']' :: (rest ++ '>' :: more)) := by simp
  rw [whole]
  exact readQuoted_complete name mode closed after _

theorem readExpected_append {name : Text} {mode : MatchMode} {text rest : Text}
    {condition : Condition} (read : readExpected name mode text = .ok (condition, rest)) :
    readExpected name mode (text ++ '>' :: more) = .ok (condition, rest ++ '>' :: more) := by
  unfold readExpected at read ⊢
  rw [skipSpace_append]
  split at read
  · rename_i found
    rw [found]
    exact readQuoted_append more read
  · rename_i found
    rw [found]
    exact readQuoted_append more read
  · rename_i double single
    dsimp only at read
    split at read
    · cases read
    · rename_i inhabited
      obtain ⟨rfl, bracket⟩ := readClosing_eq_ok_iff.mp read
      obtain ⟨run, left⟩ := Text.run_append (Text.skipSpace text) ('>' :: more) fun ended => by
        rw [ended] at bracket
        cases bracket
      obtain ⟨c, start, found⟩ : ∃ c start, Text.skipSpace text = c :: start := by
        apply List.exists_cons_of_ne_nil
        intro empty
        rw [empty] at bracket
        cases bracket
      split
      · rename_i marked
        rw [found, List.cons_append] at marked
        exact (double start (by rw [found, (List.cons.inj marked).1])).elim
      · rename_i marked
        rw [found, List.cons_append] at marked
        exact (single start (by rw [found, (List.cons.inj marked).1])).elim
      · dsimp only
        rw [run, left, if_neg inhabited, bracket]
        rfl

theorem readComparison_append {name text rest : Text} {condition : Condition}
    (read : readComparison name text = .ok (condition, rest)) :
    readComparison name (text ++ '>' :: more) = .ok (condition, rest ++ '>' :: more) := by
  unfold readComparison at read
  split at read
  · cases read
  · rename_i found
    cases read
    rw [readComparison, skipSpace_append, found]
    rfl
  · rename_i found
    rw [readComparison, skipSpace_append, found]
    exact readExpected_append more read
  · cases read
  · rename_i c next after _ _ found
    split at read
    · rename_i mode marked
      split at read
      · rename_i equals
        obtain ⟨space, whole, _⟩ := exists_space text
        obtain ⟨signed, sign⟩ := sign_of_ofMark? marked
        have written : text ++ '>' :: more =
            space.text ++ (mode.sign ++ (after ++ '>' :: more)) := by
          rw [whole, found, equals, sign]
          simp
        rw [written, readComparison_sign name space signed]
        exact readExpected_append more read
      · cases read
    · cases read

theorem readCondition_append {text rest : Text} {condition : Condition}
    (read : readCondition text = .ok (condition, rest)) :
    readCondition (text ++ '>' :: more) = .ok (condition, rest ++ '>' :: more) := by
  have stop : isNameChar '>' = false := by decide
  obtain ⟨run, left⟩ := Text.run_append (Text.skipSpace text) ('>' :: more)
    fun _ => Text.stop_of_cons stop more
  unfold readCondition at read ⊢
  dsimp only at read ⊢
  rw [skipSpace_append, run, left]
  split at read
  · cases read
  · rename_i nonempty
    rw [if_neg nonempty]
    exact readComparison_append more read

theorem readQualifier_append {c : Char} {text rest : Text} {qualifier : Qualifier}
    (read : readQualifier c text = .ok (qualifier, rest)) :
    readQualifier c (text ++ '>' :: more) = .ok (qualifier, rest ++ '>' :: more) := by
  unfold readQualifier at read ⊢
  split at read
  · rename_i hash
    obtain ⟨⟨name, after⟩, found, same⟩ := exists_of_map_eq_ok read
    cases same
    rw [if_pos hash, readIdentifier_append more found]
    rfl
  · rename_i notHash
    rw [if_neg notHash]
    split at read
    · rename_i dot
      obtain ⟨⟨name, after⟩, found, same⟩ := exists_of_map_eq_ok read
      cases same
      rw [if_pos dot, readIdentifier_append more found]
      rfl
    · rename_i notDot
      rw [if_neg notDot]
      split at read
      · rename_i bracket
        obtain ⟨⟨condition, after⟩, found, same⟩ := exists_of_map_eq_ok read
        cases same
        rw [if_pos bracket, readCondition_append more found]
        rfl
      · cases read

/-- No qualifier starts with `>`. -/
theorem readQualifiers_append {text : Text} {qualifiers : List Qualifier}
    (read : readQualifiers text = .ok qualifiers) :
    readQualifiers (text ++ '>' :: more) = .error (.unexpected '>') := by
  fun_induction readQualifiers text generalizing qualifiers with
  | case1 text skipped =>
    rw [readQualifiers_eq, skipSpace_append, skipped]
    rfl
  | case2 => cases read
  | case3 text c rest skipped qualifier after found ih =>
    obtain ⟨later, ended, _⟩ := exists_of_map_eq_ok read
    rw [readQualifiers_eq, skipSpace_append, skipped]
    simp only [List.cons_append, readQualifier_append more found, ih ended]
    rfl

theorem readTag_append {text rest : Text} {tag : Option Text}
    (read : readTag text = .ok (tag, rest)) :
    readTag (text ++ '>' :: more) = .ok (tag, rest ++ '>' :: more) ∨
      readTag (text ++ '>' :: more) = .error (.invalidTag '>') := by
  have skip := skipSpace_append more text
  unfold readTag at read
  split at read
  · rename_i skipped
    right
    rw [readTag, skip, skipped]
    rfl
  · rename_i skipped
    cases read
    left
    rw [readTag, skip, skipped]
    rfl
  · rename_i c start _ skipped
    rw [skipped, List.cons_append] at skip
    left
    split at read
    · rename_i alpha
      cases read
      have stop : isIdentChar '>' = false := by decide
      obtain ⟨run, left⟩ := Text.run_append (c :: start) ('>' :: more)
        fun _ => Text.stop_of_cons stop more
      rw [List.cons_append] at run left
      rw [readTag_of_alpha alpha skip, run, left]
    · split at read
      · rename_i mark
        cases read
        exact readTag_of_mark mark skip
      · cases read

/-- A link that is read is not read any more if it goes on with `>`. -/
theorem readLink_append {text : Text} {link : Link} (read : readLink text = .ok link)
    (other : Link) : readLink (text ++ '>' :: more) ≠ .ok other := by
  intro again
  obtain ⟨⟨tag, rest⟩, readStart, later⟩ := exists_of_bind_eq_ok read
  obtain ⟨qualifiers, readParts, _⟩ := exists_of_bind_eq_ok later
  obtain ⟨start, startAgain, laterAgain⟩ := exists_of_bind_eq_ok again
  rcases readTag_append more readStart with same | fault
  · obtain rfl := Except.ok.inj (same.symm.trans startAgain)
    obtain ⟨_, partsAgain, _⟩ := exists_of_bind_eq_ok laterAgain
    cases (readQualifiers_append more readParts).symm.trans partsAgain
  · cases fault.symm.trans startAgain

end Ahead

/-! ## Where a text ends -/

/-- Where the character after a text stands. -/
def nestingAfter (nesting : Nesting) (text : Text) : Nesting := text.foldl Nesting.next nesting

/-- Pieces that are followed by more: the last one goes on with the first of the others. -/
def joinPieces (first : Text) : List Text → Text × List Text → Text × List Text
  | [], others => (first ++ others.1, others.2)
  | next :: rest, others =>
    let later := joinPieces next rest others
    (first, later.1 :: later.2)

theorem joinPieces_cons (c : Char) (first : Text) (rest : List Text) (others : Text × List Text) :
    joinPieces (c :: first) rest others =
      (c :: (joinPieces first rest others).1, (joinPieces first rest others).2) := by
  cases rest <;> rfl

theorem joinPieces_nil (first : Text) (rest more : List Text) :
    joinPieces first rest ([], more) = (first, rest ++ more) := by
  induction rest generalizing first with
  | nil => rw [joinPieces, List.append_nil, List.nil_append]
  | cons next rest ih => rw [joinPieces, ih, List.cons_append]

/-- A text is cut up to its end as if nothing followed, and what follows is cut from there on. -/
theorem splitLinks_append (nesting : Nesting) (text tail : Text) :
    splitLinks nesting (text ++ tail) =
      joinPieces (splitLinks nesting text).1 (splitLinks nesting text).2
        (splitLinks (nestingAfter nesting text) tail) := by
  induction text generalizing nesting with
  | nil => rfl
  | cons c text ih =>
    rw [List.cons_append, splitLinks, splitLinks, nestingAfter, List.foldl_cons]
    split
    · rename_i cut
      obtain ⟨rfl, rfl⟩ := cut
      rw [ih .outside]
      rfl
    · rw [ih, joinPieces_cons]
      rfl

theorem splitLinks_append_of_outside {text : Text}
    (outside : nestingAfter .outside text = .outside) (tail : Text) :
    splitLinks .outside (text ++ '>' :: tail) =
      ((splitLinks .outside text).1, (splitLinks .outside text).2 ++
        (splitLinks .outside tail).1 :: (splitLinks .outside tail).2) := by
  rw [splitLinks_append, outside, splitLinks, if_pos ⟨rfl, rfl⟩, joinPieces_nil]

theorem nestingAfter_of_keeps {text : Text} (keeps : Keeps .outside text .outside) :
    nestingAfter .outside text = .outside := by
  by_contra inside
  have whole := keeps []
  have cut := keeps ['>']
  rw [List.append_nil, splitLinks] at whole
  rw [splitLinks_append, whole, splitLinks, if_neg fun both => inside both.2] at cut
  simp [joinPieces, splitLinks] at cut

/-- A chain in which only quoted values contain quotation marks ends outside of brackets. -/
theorem Grammar.Chain.Plain.nestingAfter_text {chain : Chain} (plain : chain.Plain) :
    nestingAfter .outside chain.text = .outside := by
  induction chain with
  | last link => exact nestingAfter_of_keeps (keeps_link plain)
  | parent link child ih =>
    obtain ⟨here, there⟩ := plain
    rw [Chain.text, nestingAfter, List.foldl_append]
    have ended := nestingAfter_of_keeps (keeps_link here)
    rw [nestingAfter] at ended
    rw [ended]
    exact ih there

/-! ## Chains -/

theorem depth_attach (first second : Selector) :
    (first.attach second).depth = first.depth + second.depth := by
  induction first with
  | last link => rfl
  | parent link child ih => rw [attach, depth, ih, depth, Nat.add_assoc]

theorem readLinks_attach {first next : Text} {rest more : List Text} {parent child : Selector}
    (outer : readLinks first rest = .ok parent) (inner : readLinks next more = .ok child) :
    readLinks first (rest ++ next :: more) = .ok (parent.attach child) := by
  induction rest generalizing first parent with
  | nil =>
    obtain ⟨link, found, rfl⟩ := exists_of_map_eq_ok outer
    rw [List.nil_append, readLinks, inner, found]
    rfl
  | cons second rest ih =>
    obtain ⟨later, readLater, bound⟩ := exists_of_bind_eq_ok outer
    obtain ⟨link, found, same⟩ := exists_of_bind_eq_ok bound
    obtain rfl := Except.ok.inj same
    rw [List.cons_append, readLinks, ih readLater, found]
    rfl

/-- Links of which the last one goes on with `>` are not read. -/
theorem readLinks_joinPieces {first : Text} {rest : List Text} {selector : Selector}
    (read : readLinks first rest = .ok selector) (tail : Text) (more : List Text)
    (other : Selector) :
    readLinks (joinPieces first rest ('>' :: tail, more)).1
      (joinPieces first rest ('>' :: tail, more)).2 ≠ .ok other := by
  induction rest generalizing first selector other with
  | nil =>
    obtain ⟨link, found, _⟩ := exists_of_map_eq_ok read
    intro again
    cases more with
    | nil =>
      obtain ⟨extended, foundAgain, _⟩ := exists_of_map_eq_ok again
      exact readLink_append tail found extended foundAgain
    | cons next more =>
      obtain ⟨child, _, bound⟩ := exists_of_bind_eq_ok again
      obtain ⟨extended, foundAgain, _⟩ := exists_of_bind_eq_ok bound
      exact readLink_append tail found extended foundAgain
  | cons next rest ih =>
    obtain ⟨child, readChild, _⟩ := exists_of_bind_eq_ok read
    intro again
    obtain ⟨extended, childAgain, _⟩ := exists_of_bind_eq_ok again
    exact ih readChild extended childAgain

/-- A selector is accepted if none of its links is blank and all of them are read. -/
theorem parse_eq_ok_iff {source : Text} {selector : Selector} :
    parse source = .ok selector ↔
      (∀ text ∈ (splitLinks .outside source).1 :: (splitLinks .outside source).2,
        Text.allBlank text = false) ∧
      readLinks (splitLinks .outside source).1 (splitLinks .outside source).2 = .ok selector := by
  have joined := splitLinks_join .outside source
  rw [parse]
  generalize splitLinks .outside source = pieces at joined ⊢
  obtain ⟨first, rest⟩ := pieces
  dsimp only at joined ⊢
  constructor
  · intro read
    split at read
    · cases read
    · split at read
      · cases read
      · rename_i inhabited
        exact ⟨by simpa using inhabited, read⟩
  · rintro ⟨inhabited, read⟩
    have inked : Text.allBlank source = false := by
      rw [← joined, Text.allBlank, List.all_append, ← Text.allBlank,
        inhabited first List.mem_cons_self, Bool.false_and]
    have filled : (first :: rest).any Text.allBlank = false := by
      simpa [List.any_eq_false] using inhabited
    rw [if_neg (by simp [inked]), if_neg (by simp [filled])]
    exact read

/-- Two selectors with `>` between them are read as the chain of the first that goes on with the
second, if the first ends outside of brackets and quotation marks; otherwise they are not read. It
does end outside if only its quoted values contain quotation marks. -/
theorem parse_append {first second : Text} {parent child : Selector}
    (outer : parse first = .ok parent) (inner : parse second = .ok child) :
    (nestingAfter .outside first = .outside →
      parse (first ++ '>' :: second) = .ok (parent.attach child) ∧
        (parent.attach child).depth = parent.depth + child.depth) ∧
    (nestingAfter .outside first ≠ .outside →
      ∀ selector, parse (first ++ '>' :: second) ≠ .ok selector) ∧
    ∀ chain : Chain, chain.Plain → chain.text = first →
      nestingAfter .outside first = .outside := by
  obtain ⟨filled, readOuter⟩ := parse_eq_ok_iff.mp outer
  obtain ⟨filledInner, readInner⟩ := parse_eq_ok_iff.mp inner
  refine ⟨?_, ?_, ?_⟩
  · intro outside
    refine ⟨?_, depth_attach parent child⟩
    rw [parse_eq_ok_iff, splitLinks_append_of_outside outside]
    refine ⟨?_, readLinks_attach readOuter readInner⟩
    rw [← List.cons_append, List.forall_mem_append]
    exact ⟨filled, filledInner⟩
  · intro inside selector
    rw [Ne, parse_eq_ok_iff, splitLinks_append, splitLinks, if_neg fun both => inside both.2]
    rintro ⟨_, read⟩
    exact readLinks_joinPieces readOuter _ _ selector read
  · rintro chain plain rfl
    exact plain.nestingAfter_text

/-- A quoted `>` does not part links, and the one behind the bracket does. -/
theorem parse_append_quoted :
    ∃ parent child, parse "a[x='>']".toList = .ok parent ∧ parse "b>c".toList = .ok child ∧
      nestingAfter .outside "a[x='>']".toList = .outside ∧
      parse ("a[x='>']".toList ++ '>' :: "b>c".toList) = .ok (parent.attach child) := by
  let parent : Selector := .last ⟨some ['a'], none, ∅, some ⟨['x'], some ['>'], .equals⟩⟩
  let child : Selector :=
    .parent ⟨some ['b'], none, ∅, none⟩ (.last ⟨some ['c'], none, ∅, none⟩)
  have outer : parse "a[x='>']".toList = .ok parent := by decide +kernel
  have inner : parse "b>c".toList = .ok child := by decide +kernel
  have outside : nestingAfter .outside "a[x='>']".toList = .outside := by decide
  exact ⟨parent, child, outer, inner, outside, ((parse_append outer inner).1 outside).1⟩

/-- The apostrophe in a value that is not quoted keeps the parser from cutting at `>`. -/
theorem parse_append_apostrophe :
    parse "a[t=it's]".toList =
      .ok (.last ⟨some ['a'], none, ∅, some ⟨['t'], some "it's".toList, .equals⟩⟩) ∧
    parse "b".toList = .ok (.last ⟨some ['b'], none, ∅, none⟩) ∧
    parse ("a[t=it's]".toList ++ '>' :: "b".toList) = .error (.unexpected '>') := by
  decide +kernel

end TagQuery.Selector
