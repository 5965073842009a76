import TagQuery.Proofs.Markup.Shallow
import TagQuery.Proofs.Markup.Writing

/-!
# White space in tags

Two documents that differ only in the white space of their tags are read in step (`Respaced`). The
scanner looks at a tag in four ways: for what it opens or closes, for where it ends, for what it
says, and as a part of what surrounds it. None of them depends on that white space, so that the
counts of openers, the search for a closer, the fragments and the end of a comment come out alike,
and the documents fall into the same segments with the same names and attributes
(`Respaced.shallowIn_eq`).

Nothing is assumed of the rest of the documents, besides that each `<` has a `>` after it. Two
writings of one forest are such documents (`Forest.WrittenAs.respaced`).
-/

namespace TagQuery.Markup

/-- The second document is the first one with other white space in some of its tags. The flag says
whether a `<` in front of the documents has no `>` yet. What follows such a `<` is no tag of its own
and stays as it is. -/
inductive Respaced : Bool → Text → Text → Prop
  | nil : Respaced false [] []
  | outside {c : Char} {first second : Text} (other : c ≠ '<')
      (later : Respaced false first second) : Respaced false (c :: first) (c :: second)
  | start {first second : Text} (later : Respaced true first second) :
      Respaced false ('<' :: first) ('<' :: second)
  | inside {c : Char} {first second : Text} (other : c ≠ '>')
      (later : Respaced true first second) : Respaced true (c :: first) (c :: second)
  | stop {first second : Text} (later : Respaced false first second) :
      Respaced true ('>' :: first) ('>' :: second)
  | tag {name area other first second : Text} {attributes : Attributes}
      (here : PlainTag name area attributes) (there : PlainTag name other attributes)
      (later : Respaced false first second) :
      Respaced false (openingTag name area ++ first) (openingTag name other ++ second)

namespace Respaced
variable {within : Bool} {first second : Text}

/-- What follows a `<` may also be taken by itself. -/
theorem outward (same : Respaced within first second) : Respaced false first second := by
  induction same with
  | nil => exact .nil
  | outside other later _ => exact .outside other later
  | start later _ => exact .start later
  | @inside c _ _ _ later ih =>
    by_cases markup : c = '<'
    · exact markup ▸ .start later
    · exact .outside markup ih
  | stop later _ => exact .outside (by decide) later
  | tag here there later _ => exact .tag here there later

theorem markup (later : Respaced true first second) :
    Respaced within ('<' :: first) ('<' :: second) := by
  cases within with
  | false => exact .start later
  | true => exact .inside (by decide) later

/-- Up to the next `>` there is no difference. -/
theorem exists_stop (same : Respaced true first second) :
    ∃ inner back other, '>' ∉ inner ∧ first = inner ++ '>' :: back ∧
      second = inner ++ '>' :: other ∧ Respaced false back other := by
  generalize open_ : true = within at same
  induction same with
  | nil | outside | start | tag => cases open_
  | @inside c _ _ different _ ih =>
    obtain ⟨inner, back, other, absent, rfl, rfl, later⟩ := ih rfl
    exact ⟨c :: inner, back, other, by simp [absent, Ne.symm different], rfl, rfl, later⟩
  | stop later => exact ⟨[], _, _, nofun, rfl, rfl, later⟩

/-- A text of any kind may stand in front of both documents, as long as their next `>` closes it. -/
theorem prepend (run : Text) (both : ∀ within, Respaced within first second) (within : Bool) :
    Respaced within (run ++ first) (run ++ second) := by
  induction run generalizing within with
  | nil => exact both within
  | cons c run ih =>
    cases within with
    | false =>
      by_cases markup : c = '<'
      · exact markup ▸ .start (ih true)
      · exact .outside markup (ih false)
    | true =>
      by_cases stops : c = '>'
      · exact stops ▸ .stop (ih false)
      · exact .inside stops (ih true)

/-- A text without `>` may stand behind a `<`. -/
theorem prepend_unclosed {inner : Text} (absent : '>' ∉ inner) (later : Respaced true first second) :
    Respaced true (inner ++ first) (inner ++ second) := by
  induction inner with
  | nil => exact later
  | cons c inner ih =>
    obtain ⟨other, rest⟩ := not_or.mp (mt List.mem_cons.mpr absent)
    exact .inside (Ne.symm other) (ih rest)

theorem prepend_plain {run : Text} (absent : '<' ∉ run) (later : Respaced false first second) :
    Respaced false (run ++ first) (run ++ second) := by
  induction run with
  | nil => exact later
  | cons c run ih =>
    obtain ⟨other, rest⟩ := not_or.mp (mt List.mem_cons.mpr absent)
    exact .outside (Ne.symm other) (ih rest)

theorem append {back other : Text} (same : Respaced within first second)
    (later : Respaced false back other) : Respaced within (first ++ back) (second ++ other) := by
  induction same with
  | nil => exact later
  | outside other _ ih => exact .outside other ih
  | start _ ih => exact .start ih
  | inside other _ ih => exact .inside other ih
  | stop _ ih => exact .stop ih
  | tag here there _ ih =>
    rw [List.append_assoc, List.append_assoc]
    exact .tag here there ih

theorem takeWhile_eq (same : Respaced within first second) :
    first.takeWhile (· != '<') = second.takeWhile (· != '<') := by
  induction same with
  | nil => rfl
  | start => rfl
  | outside _ _ ih | inside _ _ ih | stop _ ih => simp [List.takeWhile_cons, ih]
  | tag => rfl

end Respaced

/-! ## Openers and closers -/

section Named
variable {name inner : Text} (tag : IsTagName name) (absent : '>' ∉ inner)

include tag absent

/-- Whether a `<` starts an opener does not depend on what follows its `>`. -/
theorem startsOpener_stop (back other : Text) :
    startsOpener name ('<' :: (inner ++ '>' :: back)) =
      startsOpener name ('<' :: (inner ++ '>' :: other)) := by
  have onward (back other : Text) (starts : startsOpener name ('<' :: (inner ++ '>' :: back)) = true) :
      startsOpener name ('<' :: (inner ++ '>' :: other)) = true := by
    obtain ⟨spelling, rest, same, whole, ends⟩ := startsOpener_iff.mp starts
    have word := Text.isWord_of_sameName same tag.word
    obtain ⟨middle, rfl, rfl⟩ := Text.exists_append_of_append_eq (List.cons.inj whole).2.symm
      fun c stop => Option.some.inj stop ▸ Text.notMem_of_word word (by decide)
    refine startsOpener_iff.mpr ⟨spelling, middle ++ '>' :: other, same, by simp, ?_⟩
    cases middle with
    | nil => exact Text.stop_of_cons (by decide) other
    | cons c middle => exact ends
  exact Bool.eq_iff_iff.mpr ⟨onward back other, onward other back⟩

theorem startsCloser_stop_iff (back : Text) :
    startsCloser name ('<' :: (inner ++ '>' :: back)) = true ↔
      ∃ spelling, Text.sameName name spelling = true ∧ inner = '/' :: spelling := by
  rw [startsCloser_iff]
  constructor
  · rintro ⟨spelling, rest, same, whole⟩
    have word := Text.isWord_of_sameName same tag.word
    have unstopped : '>' ∉ '/' :: spelling := by simpa using Text.notMem_of_word word (by decide)
    have split : inner ++ '>' :: back = '/' :: spelling ++ '>' :: rest := by
      simpa [closer] using (List.cons.inj whole).2
    have ends (back : Text) : ∀ c ∈ ('>' :: back).head?, (c != '>') = false := by simp
    have cut := congrArg (List.takeWhile (· != '>')) split
    rw [Text.takeWhile_run (Text.all_bne_of_notMem absent) (ends back),
      Text.takeWhile_run (Text.all_bne_of_notMem unstopped) (ends rest)] at cut
    exact ⟨spelling, same, cut⟩
  · rintro ⟨spelling, same, rfl⟩
    exact ⟨spelling, back, same, by simp [closer]⟩

end Named

namespace Respaced
variable {within : Bool} {name first second : Text} (tag : IsTagName name)

include tag

theorem starts_eq (later : Respaced true first second) :
    startsOpener name ('<' :: first) = startsOpener name ('<' :: second) ∧
      startsCloser name ('<' :: first) = startsCloser name ('<' :: second) := by
  obtain ⟨inner, back, other, absent, rfl, rfl, _⟩ := later.exists_stop
  refine ⟨startsOpener_stop tag absent back other, ?_⟩
  rw [Bool.eq_iff_iff, startsCloser_stop_iff tag absent, startsCloser_stop_iff tag absent]

theorem countOpeners_eq (same : Respaced within first second) :
    countOpeners name first = countOpeners name second := by
  have markup {first second : Text} (later : Respaced true first second)
      (ih : countOpeners name first = countOpeners name second) :
      countOpeners name ('<' :: first) = countOpeners name ('<' :: second) := by
    rw [countOpeners, countOpeners, (later.starts_eq tag).1, ih]
  induction same with
  | nil => rfl
  | outside other _ ih =>
    rw [countOpeners, countOpeners, startsOpener_of_ne other, startsOpener_of_ne other, ih]
  | start later ih => exact markup later ih
  | @inside c _ _ _ later ih =>
    by_cases less : c = '<'
    · exact less ▸ markup later ih
    · rw [countOpeners, countOpeners, startsOpener_of_ne less, startsOpener_of_ne less, ih]
  | stop _ ih =>
    rw [countOpeners, countOpeners, startsOpener_of_ne (by decide), startsOpener_of_ne (by decide),
      ih]
  | tag here there _ ih =>
    rw [countOpeners_openingTag tag here.toIsOpening here.unopened,
      countOpeners_openingTag tag there.toIsOpening there.unopened, ih]

omit tag

/-- Two documents cut in front of the same closer. -/
def SameCut (within : Bool) (name : Text) (first second : Text × Text) : Prop :=
  ∃ closing back other, closing.length = name.length + 3 ∧ first.2 = closing ++ back ∧
    second.2 = closing ++ other ∧ Respaced within (first.1 ++ closing) (second.1 ++ closing) ∧
    Respaced false back other

theorem SameCut.prepend {longer : Bool} (front other : Text) {cut again : Option (Text × Text)}
    (same : Option.Rel (SameCut within name) cut again)
    (extend : ∀ body same, Respaced within body same →
      Respaced longer (front ++ body) (other ++ same)) :
    Option.Rel (SameCut longer name) (cut.map fun (body, after) => (front ++ body, after))
      (again.map fun (body, after) => (other ++ body, after)) := by
  cases same with
  | none => exact .none
  | some same =>
    obtain ⟨closing, back, rest, size, here, there, whole, later⟩ := same
    refine .some ⟨closing, back, rest, size, here, there, ?_, later⟩
    rw [List.append_assoc, List.append_assoc]
    exact extend _ _ whole

include tag

/-- At a `<` both searches take the same step. -/
theorem balance_markup {depth : Nat} (later : Respaced true first second)
    (ih : ∀ depth, Option.Rel (SameCut true name) (balance name depth first)
      (balance name depth second)) :
    Option.Rel (SameCut within name) (balance name depth ('<' :: first))
      (balance name depth ('<' :: second)) := by
  obtain ⟨opens, closes⟩ := later.starts_eq tag
  have step (deeper : Nat) : Option.Rel (SameCut within name)
      ((balance name deeper first).map fun (body, after) => ('<' :: body, after))
      ((balance name deeper second).map fun (body, after) => ('<' :: body, after)) :=
    SameCut.prepend ['<'] ['<'] (ih deeper) fun _ _ => markup
  cases closing : startsCloser name ('<' :: first) with
  | true =>
    rw [closing] at closes
    cases depth with
    | zero =>
      -- the closer that ends the search is the same text in both documents
      obtain ⟨inner, back, other, absent, rfl, rfl, rest⟩ := later.exists_stop
      obtain ⟨spelling, same, rfl⟩ := (startsCloser_stop_iff tag absent back).mp closing
      rw [balance_of_closer_zero closing, balance_of_closer_zero closes.symm]
      refine .some ⟨closer spelling, back, other, ?_, by simp [closer], by simp [closer], ?_, rest⟩
      · simp [closer, Text.length_eq_of_sameName same]
      · exact markup (prepend_unclosed absent (.stop .nil))
    | succ depth =>
      rw [balance_of_closer_succ closing, balance_of_closer_succ closes.symm]
      exact step depth
  | false =>
    rw [closing] at closes
    cases opening : startsOpener name ('<' :: first) with
    | true =>
      rw [opening] at opens
      rw [balance_of_opener closing opening, balance_of_opener closes.symm opens.symm]
      exact step (depth + 1)
    | false =>
      rw [opening] at opens
      rw [balance_of_neither closing opening, balance_of_neither closes.symm opens.symm]
      exact step depth

omit tag in
theorem balance_plain {c : Char} {longer : Bool} {depth : Nat} (other : c ≠ '<')
    (ih : Option.Rel (SameCut within name) (balance name depth first) (balance name depth second))
    (extend : ∀ body same, Respaced within body same → Respaced longer (c :: body) (c :: same)) :
    Option.Rel (SameCut longer name) (balance name depth (c :: first))
      (balance name depth (c :: second)) := by
  rw [balance_of_neither (startsCloser_of_ne other) (startsOpener_of_ne other),
    balance_of_neither (startsCloser_of_ne other) (startsOpener_of_ne other)]
  exact SameCut.prepend [c] [c] ih extend

/-- Both searches for a closer end at the same one, or both find none. -/
theorem balance_rel (same : Respaced within first second) (depth : Nat) :
    Option.Rel (SameCut within name) (balance name depth first) (balance name depth second) := by
  induction same generalizing depth with
  | nil => exact .none
  | outside other _ ih => exact balance_plain other (ih depth) fun _ _ => .outside other
  | start later ih => exact balance_markup tag later ih
  | @inside c _ _ other later ih =>
    by_cases less : c = '<'
    · exact less ▸ balance_markup tag later ih
    · exact balance_plain less (ih depth) fun _ _ => .inside other
  | stop _ ih => exact balance_plain (by decide) (ih depth) fun _ _ => .stop
  | tag here there _ ih =>
    rw [passes_openingTag tag here.toIsOpening here.unopened,
      passes_openingTag tag there.toIsOpening there.unopened]
    exact SameCut.prepend _ _ (ih _) fun _ _ => .tag here there

end Respaced

/-! ## Fragments -/

theorem fragmentsIn_markup (rest : Text) :
    fragmentsIn ('<' :: rest) =
      ((fragment? ('<' :: rest.takeWhile (· != '<'))).toList.flatMap elementsOf) ++
        fragmentsIn rest := by
  have skipped : pieces (rest.dropWhile (· != '<')) = pieces rest := by
    have unopened : '<' ∉ rest.takeWhile (· != '<') := fun present => by
      simpa using List.mem_takeWhile_imp present
    rw [← pieces_append_of_notMem unopened, List.takeWhile_append_dropWhile]
  rw [fragmentsIn, pieces, if_pos rfl, skipped, List.filterMap_cons]
  cases fragment? ('<' :: rest.takeWhile (· != '<')) with
  | none => rfl
  | some slice => rw [List.flatMap_cons, Option.toList_some, List.flatMap_singleton, fragmentsIn]

namespace Respaced
variable {within : Bool} {first second : Text}

theorem fragmentsIn_eq (same : Respaced within first second) :
    (fragmentsIn first).map Element.tag = (fragmentsIn second).map Element.tag := by
  have markup {first second : Text} (later : Respaced true first second)
      (ih : (fragmentsIn first).map Element.tag = (fragmentsIn second).map Element.tag) :
      (fragmentsIn ('<' :: first)).map Element.tag =
        (fragmentsIn ('<' :: second)).map Element.tag := by
    rw [fragmentsIn_markup, fragmentsIn_markup, later.takeWhile_eq, List.map_append,
      List.map_append, ih]
  have plain {c : Char} (other : c ≠ '<') (rest : Text) :
      fragmentsIn (c :: rest) = fragmentsIn rest := by
    have absent : '<' ∉ [c] := by simpa using other.symm
    exact fragmentsIn_append_of_notMem absent rest
  induction same with
  | nil => rfl
  | outside other _ ih => rw [plain other, plain other, ih]
  | start later ih => exact markup later ih
  | @inside c _ _ _ later ih =>
    by_cases less : c = '<'
    · exact less ▸ markup later ih
    · rw [plain less, plain less, ih]
  | stop _ ih => rw [plain (by decide), plain (by decide), ih]
  | @tag name area other first second _ here there _ ih =>
    cases lineBreak : isLineBreak name with
    | true =>
      rw [fragmentsIn_lineBreak here.toIsOpening here.unopened lineBreak,
        fragmentsIn_lineBreak there.toIsOpening there.unopened lineBreak, ih]
    | false =>
      obtain ⟨_, own⟩ := fragmentsIn_openingTag here.toIsOpening here.unopened lineBreak first
      obtain ⟨_, again⟩ := fragmentsIn_openingTag there.toIsOpening there.unopened lineBreak second
      rw [own, again, List.map_cons, List.map_cons, ih, Element.tag, Element.tag, here.means,
        there.means]

/-! ## Comments -/

/-- A pattern without `<` stands in front of both or of neither. -/
theorem strip?_rel {pattern : Text} (unopened : '<' ∉ pattern) (same : Respaced false first second) :
    Option.Rel (Respaced false) (Text.strip? pattern first) (Text.strip? pattern second) := by
  induction pattern generalizing first second with
  | nil => exact .some same
  | cons p pattern ih =>
    obtain ⟨other, rest⟩ := not_or.mp (mt List.mem_cons.mpr unopened)
    cases same with
    | nil => exact .none
    | @outside c _ _ _ later =>
      by_cases found : p = c
      · simpa [Text.strip?, found] using ih rest later
      · simp [Text.strip?, found]
    | start | tag => simp [Text.strip?, openingTag, Ne.symm other]

end Respaced

/-- What follows the end of a comment. -/
def afterComment? (text : Text) : Option Text :=
  (Text.splitAfterPattern? ['-', '-', '>'] text).map Prod.snd

theorem afterComment?_cons (c : Char) (text : Text) :
    afterComment? (c :: text) = (Text.strip? ['-', '-', '>'] (c :: text)).or (afterComment? text) := by
  rw [afterComment?, Text.splitAfterPattern?, afterComment?]
  cases Text.strip? ['-', '-', '>'] (c :: text) with
  | none => simp [Function.comp_def]
  | some rest => rfl

/-- Up to a `>` without a hyphen in front of it no comment ends. -/
theorem afterComment?_append {run : Text} (unclosed : '>' ∉ run)
    (last : ∀ c ∈ run.getLast?, c ≠ '-') (rest : Text) :
    afterComment? (run ++ '>' :: rest) = afterComment? rest := by
  induction run with
  | nil =>
    rw [List.nil_append, afterComment?_cons]
    rfl
  | cons c run ih =>
    have goesOn : Text.strip? ['-', '-', '>'] (c :: (run ++ '>' :: rest)) = none := by
      rw [Text.strip?_eq_none_iff]
      rintro ⟨after, whole⟩
      match run, unclosed, last, whole with
      | [], _, _, whole => simp at whole
      | [d], _, last, whole =>
        obtain ⟨rfl, rfl, _⟩ : '-' = c ∧ '-' = d ∧ _ := by simpa using whole
        exact last '-' rfl rfl
      | d :: e :: run, unclosed, _, whole =>
        obtain ⟨_, _, rfl, _⟩ : '-' = c ∧ '-' = d ∧ '>' = e ∧ _ := by simpa using whole
        simp at unclosed
    have later : ∀ d ∈ run.getLast?, d ≠ '-' := by
      cases run with
      | nil => exact nofun
      | cons d run => exact last
    rw [List.cons_append, afterComment?_cons, goesOn, Option.none_or,
      ih (fun present => unclosed (List.mem_cons_of_mem _ present)) later]

/-- A comment does not end in a tag. -/
theorem PlainTag.afterComment?_eq {name area : Text} {attributes : Attributes}
    (plain : PlainTag name area attributes) (rest : Text) :
    afterComment? (openingTag name area ++ rest) = afterComment? rest := by
  have unclosed : '>' ∉ '<' :: (name ++ area) := by
    simpa [plain.plain] using Text.notMem_of_word plain.word (by decide)
  have last : ∀ c ∈ ('<' :: (name ++ area)).getLast?, c ≠ '-' := by
    intro c member
    rw [← List.singleton_append, ← List.append_assoc, List.getLast?_append,
      List.getLast?_append_of_ne_nil _ plain.nonempty] at member
    rcases Option.or_eq_some_iff.mp member with found | ⟨_, found⟩
    · exact (plain.last c found).2
    · rintro rfl
      exact absurd (plain.word '-' (List.mem_of_getLast? found)) (by decide)
  have whole : openingTag name area ++ rest = '<' :: (name ++ area) ++ '>' :: rest := by
    simp [openingTag]
  rw [whole, afterComment?_append unclosed last]

namespace Respaced
variable {within : Bool} {first second : Text}

theorem rel_or {α : Type} {R : α → α → Prop} {a b c d : Option α} (here : Option.Rel R a b)
    (there : Option.Rel R c d) : Option.Rel R (a.or c) (b.or d) := by
  cases here with
  | none => exact there
  | some related => exact .some related

theorem afterComment?_rel (same : Respaced within first second) :
    Option.Rel (Respaced false) (afterComment? first) (afterComment? second) := by
  have step {c : Char} {first second : Text} (whole : Respaced false (c :: first) (c :: second))
      (ih : Option.Rel (Respaced false) (afterComment? first) (afterComment? second)) :
      Option.Rel (Respaced false) (afterComment? (c :: first)) (afterComment? (c :: second)) := by
    rw [afterComment?_cons, afterComment?_cons]
    exact rel_or (strip?_rel (by decide) whole) ih
  induction same with
  | nil => exact .none
  | outside other later ih => exact step (.outside other later) ih
  | start later ih => exact step (.start later) ih
  | inside other later ih => exact step (Respaced.inside other later).outward ih
  | stop later ih => exact step (Respaced.stop later).outward ih
  | tag here there _ ih =>
    rw [here.afterComment?_eq, there.afterComment?_eq]
    exact ih

end Respaced

end TagQuery.Markup
