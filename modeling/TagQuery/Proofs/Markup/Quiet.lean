import TagQuery.Proofs.Markup.Enclosure
import TagQuery.Proofs.Markup.Forest

/-!
# Markup that is not meant

Comments and the bodies of scripts, styles and text areas may hold anything that looks like a tag.
The scanning of a document passes over them, but the search for a closer and the cutting into
fragments know neither of the two: what an element around them is searched for is found there as
well. Such a text is `Harmless` to the elements around it if the search for their closers comes
out of it as it went in, if no nestable one that is not refined finds an opener of its own name
there, and if no piece of it becomes a fragment where all nodes are fragments.

A forest is `Quiet` if its comments and the bodies of its raw elements are harmless. In a quiet
forest nothing closes what was opened in front of it (`Quiet.passes_render`), and openers are
counted for elements only (`Quiet.countOpeners_render`). Well-formed forests are quiet wherever
they stand (`WellFormed.quiet`).
-/

namespace TagQuery.Markup

/-- An element around a place: its name, and whether it holds another element of that name. -/
structure Enclosing where
  name : Text
  repeated : Bool

/-- Whether all nodes inside are fragments. -/
def Enclosing.refined (outer : Enclosing) : Bool :=
  Category.ofName outer.name == .nestable && outer.repeated

/-- A comment is passed over up to its first `-->`. -/
def comment (content : Text) : Text := '<' :: '!' :: '-' :: '-' :: (content ++ ['-', '-', '>'])

/-- No piece of a text becomes a fragment: each is a closer or a line break, has no name, or does
not reach to a `>`. -/
def Fragmentless (text : Text) : Prop := ∀ piece ∈ pieces text, fragment? piece = none

instance (text : Text) : Decidable (Fragmentless text) :=
  inferInstanceAs (Decidable (∀ piece ∈ pieces text, _))

/-- A text that may stand inside some elements, in front of what ends it, without being taken for a
part of them. -/
structure Harmless (around : List Enclosing) (content stop : Text) : Prop where
  matched : ∀ outer ∈ around, (Category.ofName outer.name).hasBody = true →
    Matched outer.name content
  unopened : ∀ outer ∈ around, Category.ofName outer.name = .nestable → outer.refined = false →
    countOpeners outer.name content = 0
  hidden : (∃ outer ∈ around, outer.refined = true) → Fragmentless (content ++ stop)

/-! ## Pieces without fragments -/

theorem pieces_append_of_notMem {run : Text} (absent : '<' ∉ run) (rest : Text) :
    pieces (run ++ rest) = pieces rest := by
  induction run with
  | nil => rfl
  | cons c run ih =>
    obtain ⟨other, later⟩ := not_or.mp (mt List.mem_cons.mpr absent)
    rw [List.cons_append, pieces, if_neg (Ne.symm other), ih later]

/-- A piece that starts with no name gives no fragment. -/
theorem fragment?_of_unnamed {run : Text} (ends : ∀ c ∈ run.head?, Text.isWord c = false) :
    fragment? ('<' :: run) = none := by
  have unnamed : tagName ('<' :: run) = [] := by
    cases run with
    | nil => rfl
    | cons c run =>
      rw [tagName, List.drop_one, List.tail_cons, List.takeWhile_cons, ends c rfl]
      rfl
  simp only [fragment?, unnamed, List.isEmpty_nil, Bool.true_or, ↓reduceIte]

theorem fragmentless_append {run rest : Text} (absent : '<' ∉ run) (silent : Fragmentless rest) :
    Fragmentless (run ++ rest) := by
  rwa [Fragmentless, pieces_append_of_notMem absent]

theorem fragmentless_closer {name : Text} (tag : IsTagName name) : Fragmentless (closer name) := by
  have absent := notMem_tail_closer tag (Text.sameName_refl name)
  have inside := Text.all_bne_of_notMem absent
  have mark : ∀ c ∈ ('/' :: (name ++ ['>'])).head?, Text.isWord c = false :=
    Text.stop_of_cons (by decide) _
  intro piece member
  rw [closer, pieces, if_pos rfl, List.takeWhile_eq_self_iff.mpr inside,
    List.dropWhile_eq_nil_iff.mpr inside, pieces] at member
  rw [List.mem_singleton.mp member]
  exact fragment?_of_unnamed mark

/-! ## Harmless texts -/

theorem countClosers_of_unclosed {name content : Text} (unclosed : ¬ ['<', '/'] <:+: content) :
    countClosers name content = 0 := by
  induction content with
  | nil => rfl
  | cons c content ih =>
    have starts : startsCloser name (c :: content) = false := by
      rw [← Bool.not_eq_true, startsCloser_iff]
      rintro ⟨spelling, rest, _, whole⟩
      exact unclosed (whole ▸ ⟨[], spelling ++ ['>'] ++ rest, by simp [closer]⟩)
    rw [countClosers, starts, ih fun inside => unclosed (inside.trans (List.suffix_cons c _).isInfix)]
    rfl

theorem matched_of_unclosed {name content : Text} (unclosed : ¬ ['<', '/'] <:+: content)
    (unopened : countOpeners name content = 0) : Matched name content where
  surplus front within := by
    rw [countClosers_of_unclosed fun inside => unclosed (inside.trans within.isInfix)]
    exact Nat.zero_le _
  even := by rw [countClosers_of_unclosed unclosed, unopened]

/-- Without any `</` in it, a text is harmless unless something around is opened in it. -/
theorem harmless_of_unclosed {around : List Enclosing} {content stop : Text}
    (unclosed : ¬ ['<', '/'] <:+: content)
    (unopened : ∀ outer ∈ around, (Category.ofName outer.name).hasBody = true →
      countOpeners outer.name content = 0)
    (hidden : (∃ outer ∈ around, outer.refined = true) → Fragmentless (content ++ stop)) :
    Harmless around content stop where
  matched outer member body := matched_of_unclosed unclosed (unopened outer member body)
  unopened outer member nestable _ := unopened outer member (by rw [nestable]; rfl)
  hidden := hidden

/-- Also beside the inner one of two elements a line break may be commented out. -/
example : Harmless [⟨"div".toList, true⟩] "a<br>".toList ['-', '-', '>'] :=
  harmless_of_unclosed (by decide) (by decide) fun _ => by decide +kernel

theorem harmless_of_notMem {content stop : Text} (absent : '<' ∉ content)
    (silent : Fragmentless stop) (around : List Enclosing) : Harmless around content stop :=
  harmless_of_unclosed (fun inside => absent (inside.subset List.mem_cons_self))
    (fun _ _ _ => countOpeners_of_notMem absent) fun _ => fragmentless_append absent silent

/-- At the top level of a document there is nothing to be taken for a part of. -/
theorem harmless_nil (content stop : Text) : Harmless [] content stop := ⟨nofun, nofun, nofun⟩

/-- A forest whose comments and raw bodies are harmless to the elements around them. -/
inductive Forest.Quiet : List Enclosing → Forest → Prop
  | nil {around : List Enclosing} : Quiet around .nil
  | text {around : List Enclosing} {run : Text} {rest : Forest} (unopened : '<' ∉ run)
      (oneLine : '\n' ∉ run) (later : Quiet around rest) : Quiet around (.text run rest)
  | comment {around : List Enclosing} {content : Text} {rest : Forest}
      (closed : ¬ ['-', '-', '>'] <:+: content) (oneLine : '\n' ∉ content)
      (harmless : Harmless around content ['-', '-', '>']) (later : Quiet around rest) :
      Quiet around (.text (comment content) rest)
  | raw {around : List Enclosing} {name : Text} {attributes : List Attribute}
      {children rest : Forest} (raw : isRawText name = true) (tag : IsTagName name)
      (writable : ∀ entry ∈ attributes, IsWritable entry) (plain : children.isText = true)
      (oneLine : '\n' ∉ children.render)
      (harmless : Harmless (⟨name, false⟩ :: around) children.render (closer name))
      (later : Quiet around rest) : Quiet around (.element name attributes children rest)
  | element {around : List Enclosing} {name : Text} {attributes : List Attribute}
      {children rest : Forest} (markup : isRawText name = false) (tag : IsTagName name)
      (writable : ∀ entry ∈ attributes, IsWritable entry)
      (empty : Category.ofName name = .void → children = .nil)
      (inside : Quiet (⟨name, children.hasName name⟩ :: around) children)
      (later : Quiet around rest) : Quiet around (.element name attributes children rest)

/-! ## Searching through harmless texts -/

section Named
variable {name content : Text} (tag : IsTagName name)

include tag

/-- The search comes out of a text at a depth that its openers and closers say, if no closer in it
is surplus. -/
theorem balance_append {depth next : Nat} {back : Text} (apart : Apart back)
    (surplus : ∀ front, front <+: content →
      countClosers name front ≤ countOpeners name front + depth)
    (total : countClosers name content + next = countOpeners name content + depth) :
    balance name depth (content ++ back) =
      (balance name next back).map fun (body, after) => (content ++ body, after) := by
  induction content generalizing depth with
  | nil =>
    obtain rfl : next = depth := by simpa [countClosers, countOpeners] using total
    simp
  | cons c content ih =>
    rw [countClosers, countOpeners] at total
    rcases balance_cons tag depth c (content ++ back) with ⟨closes, rfl, _⟩ | ⟨deeper, step, moved⟩
    · rw [startsCloser_append tag apart] at closes
      obtain ⟨spelling, rest, same, whole⟩ := startsCloser_iff.mp closes
      have surplusCloser := surplus (closer spelling) ⟨rest, whole.symm⟩
      rw [countClosers_closer tag same, countOpeners_closer tag same] at surplusCloser
      omega
    · rw [startsOpener_append tag apart, startsCloser_append tag apart] at moved
      have later : ∀ front, front <+: content →
          countClosers name front ≤ countOpeners name front + deeper := by
        intro front within
        by_cases markup : '<' ∈ front
        · have here := surplus (c :: front) ((List.prefix_cons_inj c).mpr within)
          obtain ⟨opens, closes⟩ := starts_of_prefix tag (c := c) within markup
          rw [countClosers, countOpeners, ← opens, ← closes] at here
          omega
        · rw [countClosers_of_notMem markup]
          exact Nat.zero_le _
      rw [List.cons_append, step, ih later (by omega), Option.map_map]
      rfl

/-- Between a matched text and what follows it no tag may be formed. -/
theorem Matched.passes {tail : Text} (matched : Matched name content) (filled : tail ≠ [])
    (apart : Apart tail) {depth next : Nat} (passes : Passes name tail depth next) :
    Passes name (content ++ tail) depth next := by
  intro rest
  have surplus : ∀ front, front <+: content →
      countClosers name front ≤ countOpeners name front + depth := fun front within =>
    Nat.le_trans (matched.surplus front within) (Nat.le_add_right _ _)
  have total : countClosers name content + depth = countOpeners name content + depth := by
    rw [matched.even]
  rw [List.append_assoc, balance_append tag (apart.append filled rest) surplus total, passes,
    Option.map_map]
  simp only [Function.comp_def, List.append_assoc]

/-- The closer after a matched text balances an opener in front of it. -/
theorem Matched.balance_closer (matched : Matched name content) (rest : Text) :
    balance name 0 (content ++ (closer name ++ rest)) = some (content, closer name ++ rest) := by
  have closes : startsCloser name (closer name ++ rest) = true := by
    rw [startsCloser_closer tag rest tag.word, Text.sameName_refl]
  have stop : balance name 0 (closer name ++ rest) = some ([], closer name ++ rest) :=
    balance_of_closer_zero closes
  rw [balance_append tag (apart_closer name rest) matched.surplus (congrArg (· + 0) matched.even),
    stop]
  exact congrArg (fun text => some (text, closer name ++ rest)) (List.append_nil _)

/-- What the search passes over is matched. -/
theorem matched_of_passes (passes : Passes name content 0 0) : Matched name content := by
  have closes : startsCloser name (closer name ++ []) = true := by
    rw [startsCloser_closer tag [] tag.word, Text.sameName_refl]
  rw [List.append_nil] at closes
  have found : balance name 0 (content ++ closer name) = some (content, closer name) := by
    have stop : balance name 0 (closer name) = some ([], closer name) :=
      balance_of_closer_zero closes
    rw [passes, stop]
    exact congrArg (fun text => some (text, closer name)) (List.append_nil _)
  exact ⟨fun front within => closers_le_of_balance tag found within,
    (counts_of_balance tag found).2⟩

theorem passes_comment (matched : Matched name content) (depth : Nat) :
    Passes name (comment content) depth depth := by
  have opening : Passes name ['<', '!', '-', '-'] depth depth := by
    apply passes_tag (by decide)
    intro rest
    exact balance_of_neither rfl (startsOpener_of_mark tag (by decide) _)
  have closing : Passes name ['-', '-', '>'] depth depth := passes_of_notMem (by decide)
  exact opening.append (matched.passes tag (by decide) (apart_of_cons (by decide) _) closing)

theorem countOpeners_comment (unopened : countOpeners name content = 0) (rest : Text) :
    countOpeners name (comment content ++ rest) = countOpeners name rest := by
  have apart : Apart (['-', '-', '>'] ++ rest) := apart_of_cons (by decide) _
  have marks : '<' ∉ ['!', '-', '-'] := by decide
  have whole : comment content ++ rest =
      '<' :: (['!', '-', '-'] ++ (content ++ (['-', '-', '>'] ++ rest))) := by
    simp [comment]
  rw [whole, countOpeners, List.cons_append, startsOpener_of_mark tag (by decide),
    ← List.cons_append, countOpeners_append_of_notMem marks, countOpeners_append tag apart, unopened,
    countOpeners_append_of_notMem (by decide)]
  simp

end Named

/-! ## Quiet forests -/

namespace Forest.Quiet
variable {around : List Enclosing} {forest : Forest}

/-- Nothing in a quiet forest closes what was opened in front of it. -/
theorem passes_render (quiet : forest.Quiet around) {outer : Enclosing} (member : outer ∈ around)
    (tag : IsTagName outer.name) (body : (Category.ofName outer.name).hasBody = true)
    (depth : Nat) : Passes outer.name forest.render depth depth := by
  induction quiet generalizing depth with
  | nil => exact passes_of_notMem nofun
  | text unopened _ _ ih => exact (passes_of_notMem unopened).append (ih member depth)
  | comment _ _ harmless _ ih =>
    exact (passes_comment tag (harmless.matched outer member body) depth).append (ih member depth)
  | raw _ word writable _ _ harmless _ ih =>
    refine (passes_written tag body word writable depth ?_).append (ih member depth)
    have matched := harmless.matched outer (List.mem_cons_of_mem _ member) body
    exact matched.passes tag (List.cons_ne_nil _ _) (apart_markup _) (passes_closer tag word)
  | element _ word writable _ _ _ insideIh laterIh =>
    refine (passes_written tag body word writable depth ?_).append (laterIh member depth)
    exact (insideIh (List.mem_cons_of_mem _ member) _).append (passes_closer tag word)

/-- Openers of the name of a nestable element are found inside of it only where elements have its
name. -/
theorem countOpeners_render (quiet : forest.Quiet around) {outer : Enclosing}
    (member : outer ∈ around) (tag : IsTagName outer.name)
    (nestable : Category.ofName outer.name = .nestable) (whole : outer.refined = false)
    (unnamed : forest.hasName outer.name = false) (rest : Text) :
    countOpeners outer.name (forest.render ++ rest) = countOpeners outer.name rest := by
  induction quiet generalizing rest with
  | nil => rfl
  | text unopened _ _ ih =>
    rw [Forest.render, List.append_assoc, countOpeners_append_of_notMem unopened,
      ih member unnamed]
  | comment _ _ harmless _ ih =>
    have none := harmless.unopened outer member nestable whole
    rw [Forest.render, List.append_assoc, countOpeners_comment tag none, ih member unnamed]
  | raw _ word writable _ _ harmless _ ih =>
    simp only [Forest.hasName, Bool.or_eq_false_iff] at unnamed
    obtain ⟨⟨different, _⟩, after⟩ := unnamed
    have none := harmless.unopened outer (List.mem_cons_of_mem _ member) nestable whole
    rw [Forest.render, List.append_assoc, List.append_assoc,
      countOpeners_written tag word writable different fun rest => ?_, ih member after]
    rw [countOpeners_append tag (apart_closer _ rest), none, Nat.zero_add,
      countOpeners_closer_append tag word]
  | element _ word writable _ _ _ insideIh laterIh =>
    simp only [Forest.hasName, Bool.or_eq_false_iff] at unnamed
    obtain ⟨⟨different, inside⟩, after⟩ := unnamed
    rw [Forest.render, List.append_assoc, List.append_assoc,
      countOpeners_written tag word writable different fun rest => ?_, laterIh member after]
    rw [insideIh (List.mem_cons_of_mem _ member) inside, countOpeners_closer_append tag word]

/-- An opener of a nestable element's own name inside of it is that of an element. -/
theorem hasName_of_countOpeners {name : Text}
    (quiet : forest.Quiet (⟨name, forest.hasName name⟩ :: around)) (tag : IsTagName name)
    (nestable : Category.ofName name = .nestable) (opens : countOpeners name forest.render ≠ 0) :
    forest.hasName name = true := by
  by_contra unnamed
  have whole : Enclosing.refined ⟨name, forest.hasName name⟩ = false := by
    rw [Enclosing.refined, Bool.eq_false_iff.mpr unnamed, Bool.and_false]
  have none := quiet.countOpeners_render List.mem_cons_self tag nestable whole
    (Bool.eq_false_iff.mpr unnamed) []
  rw [List.append_nil] at none
  exact opens none

/-- Commented out elements are harmless to elements of other names, if those are not refined. -/
theorem harmless_render (quiet : forest.Quiet around) (stop : Text)
    (tags : ∀ outer ∈ around, IsTagName outer.name)
    (unnamed : ∀ outer ∈ around, forest.hasName outer.name = false)
    (unrefined : ∀ outer ∈ around, outer.refined = false) :
    Harmless around forest.render stop where
  matched outer member body :=
    matched_of_passes (tags outer member) (quiet.passes_render member (tags outer member) body 0)
  unopened outer member nestable whole := by
    have none := quiet.countOpeners_render member (tags outer member) nestable whole
      (unnamed outer member) []
    rwa [List.append_nil] at none
  hidden refined := by
    obtain ⟨outer, member, yes⟩ := refined
    rw [unrefined outer member] at yes
    cases yes

theorem oneLine_written {name : Text} {attributes : List Attribute} {children : Forest}
    (tag : IsTagName name) (writable : ∀ entry ∈ attributes, IsWritable entry)
    (inside : '\n' ∉ children.render) :
    '\n' ∉ openingTag name (writeAttributes attributes) ++
      (if Category.ofName name = .void then [] else children.render ++ closer name) := by
  have named := Text.notMem_of_word (c := '\n') tag.word (by decide)
  have area := notMem_writeAttributes (c := '\n') writable (by decide) (by decide)
    fun entry member => (writable entry member).oneLine
  split <;> simp [openingTag, closer, named, area, inside]

theorem oneLine_render (quiet : forest.Quiet around) : '\n' ∉ forest.render := by
  induction quiet with
  | nil => exact nofun
  | text _ oneLine _ ih => simp [Forest.render, oneLine, ih]
  | comment _ oneLine _ _ ih => simp [Forest.render, Markup.comment, oneLine, ih]
  | raw _ tag writable _ oneLine _ _ ih =>
    rw [Forest.render, List.mem_append, not_or]
    exact ⟨oneLine_written tag writable oneLine, ih⟩
  | element _ tag writable _ _ _ insideIh laterIh =>
    rw [Forest.render, List.mem_append, not_or]
    exact ⟨oneLine_written tag writable insideIh, laterIh⟩

end Forest.Quiet

/-! ## Well-formed forests -/

theorem Forest.WellFormed.unopened_of_isText {forest : Forest} (formed : forest.WellFormed)
    (plain : forest.isText = true) : '<' ∉ forest.render := by
  induction formed with
  | nil => exact nofun
  | text unopened _ _ ih => simp [Forest.render, unopened, ih plain]
  | element => cases plain

/-- Where there are no comments, and only text in raw elements, everything is quiet. -/
theorem Forest.WellFormed.quiet {forest : Forest} (formed : forest.WellFormed)
    (around : List Enclosing) : forest.Quiet around := by
  induction formed generalizing around with
  | nil => exact .nil
  | text unopened oneLine _ ih => exact .text unopened oneLine (ih around)
  | @element name attributes children _ tag _ writable empty plain inside _ insideIh laterIh =>
    cases raw : isRawText name with
    | true =>
      have unopened := inside.unopened_of_isText (plain raw)
      exact .raw raw tag writable (plain raw) (insideIh []).oneLine_render
        (harmless_of_notMem unopened (fragmentless_closer tag) _) (laterIh around)
    | false => exact .element raw tag writable empty (insideIh _) (laterIh around)

theorem oneLine_render {forest : Forest} (formed : forest.WellFormed) : '\n' ∉ forest.render :=
  (formed.quiet []).oneLine_render

end TagQuery.Markup
