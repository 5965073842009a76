import TagQuery.Proofs.Markup.AttributeReading
import TagQuery.Proofs.Markup.Enclosure

/-!
# Closing slashes

A slash in front of the `>` of a tag may close the tag, or be the last character of a value. The
cutting of a document looks at the one character before it (`closesItself`), and the attributes are
read from the left, with names, `=` and quotation marks (`written`).

`ending` says where the reading of attributes stands at the end of a text, and a slash appended
there becomes part of a value exactly if it stands at one (`takesSlash_iff`). The two agree on a
slash behind white space, unless a value is still awaited or a quotation still open there
(`closesItself_awaited`). A slash behind anything else but the name never closes the tag, whether or
not it belongs to a value (`closesItself_spec`).
-/

namespace TagQuery

namespace Attributes

/-! ## Where the reading stands -/

/-- Where the end of a text stands with regard to the attributes in it. -/
inductive Ending where
  /-- Outside of any value. -/
  | between
  /-- After an `=` that has no value yet. -/
  | awaited
  /-- Right behind a value without quotation marks. -/
  | unquoted
  /-- In a value whose quotation mark has no partner yet. -/
  | quoted
deriving DecidableEq

/-- Where a text that starts with a value ends. -/
def valueEnding : Text → Ending
  | [] => .awaited
  | c :: rest =>
    if c = '"' ∨ c = '\'' then if c ∈ rest then .between else .quoted
    else if (c :: rest).any Text.isSpace then .between else .unquoted

/-- Where a text that follows the name of an attribute ends, so far as it is read with that
name. -/
def assignmentEnding (text : Text) : Ending :=
  match Text.skipSpace text with
  | '=' :: rest => valueEnding (Text.skipSpace rest)
  | _ => .between

/-- Where the area of a tag ends, or a part of it. -/
def ending : Text → Ending
  | [] => .between
  | c :: rest =>
    if isNameChar c then
      match assignmentEnding (rest.dropWhile isNameChar) with
      | .between => ending (readAssignment false (rest.dropWhile isNameChar)).2
      | inside => inside
    else ending rest
termination_by text => text.length
decreasing_by
  · exact Nat.lt_succ_of_le
      (Nat.le_trans (readAssignment_length_le ..) (List.dropWhile_suffix _).length_le)
  · exact Nat.lt_succ_self _

/-- A slash behind a text becomes the last character of the last value in it. -/
def TakesSlash (void : Bool) (front : Text) : Prop :=
  ∃ earlier name value, written void front = earlier ++ [⟨name, Text.trim value⟩] ∧
    written void (front ++ ['/']) = earlier ++ [⟨name, Text.trim (value ++ ['/'])⟩]

/-! ## A slash at the end -/

theorem skipSpace_append_slash (text : Text) :
    Text.skipSpace (text ++ ['/']) = Text.skipSpace text ++ ['/'] :=
  (Text.run_append text ['/'] fun _ => Text.stop_of_cons (by decide) []).2

theorem readValue_of_open_mark (void : Bool) {mark : Char} (isMark : mark = '"' ∨ mark = '\'')
    {content : Text} (opened : mark ∉ content) :
    readValue void (mark :: content) = (content, []) := by
  have inside := Text.all_bne_of_notMem opened
  rw [readValue, if_pos isMark, List.takeWhile_eq_self_iff.mpr inside,
    List.dropWhile_eq_nil_iff.mpr inside]
  rfl

theorem readValue_of_unmarked {c : Char} (unmarked : ¬ (c = '"' ∨ c = '\'')) (rest : Text) :
    readValue false (c :: rest) =
      ((c :: rest).takeWhile (!Text.isSpace ·), (c :: rest).dropWhile (!Text.isSpace ·)) := by
  rw [readValue, if_neg unmarked]
  rfl

/-- A slash behind a complete value is left over. -/
theorem readValue_append_slash {text : Text} (between : valueEnding text = .between) :
    readValue false (text ++ ['/']) =
      ((readValue false text).1, (readValue false text).2 ++ ['/']) := by
  cases text with
  | nil => cases between
  | cons c rest =>
    rw [valueEnding] at between
    split at between
    · rename_i mark
      split at between
      · rename_i closed
        obtain ⟨content, after, rfl, absent⟩ := List.eq_append_cons_of_mem closed
        have longer : c :: (content ++ c :: after) ++ ['/'] =
            c :: (content ++ c :: (after ++ ['/'])) := by simp
        rw [longer, readValue_of_mark false mark absent, readValue_of_mark false mark absent]
      · cases between
    · rename_i unmarked
      split at between
      · rename_i spaced
        have ended : (c :: rest).dropWhile (!Text.isSpace ·) ≠ [] := by
          intro nothing
          obtain ⟨d, member, space⟩ := List.any_eq_true.mp spaced
          have other := List.dropWhile_eq_nil_iff.mp nothing d member
          rw [space] at other
          cases other
        obtain ⟨run, left⟩ := Text.run_append (c :: rest) ['/'] fun nothing => (ended nothing).elim
        rw [List.cons_append] at run left ⊢
        rw [readValue_of_unmarked unmarked, readValue_of_unmarked unmarked, run, left]
      · cases between

/-- A slash behind a value that goes on, or that is still missing, is read with it. -/
theorem readValue_takes_slash {text : Text} (inside : valueEnding text ≠ .between) :
    readValue false text = ((readValue false text).1, []) ∧
      readValue false (text ++ ['/']) = ((readValue false text).1 ++ ['/'], []) := by
  cases text with
  | nil => exact ⟨rfl, rfl⟩
  | cons c rest =>
    rw [valueEnding] at inside
    rw [List.cons_append]
    split at inside
    · rename_i mark
      split at inside
      · exact (inside rfl).elim
      · rename_i opened
        have longer : c ∉ rest ++ ['/'] := by
          rcases mark with rfl | rfl <;> simpa using opened
        rw [readValue_of_open_mark false mark opened, readValue_of_open_mark false mark longer]
        exact ⟨rfl, rfl⟩
    · rename_i unmarked
      split at inside
      · exact (inside rfl).elim
      · rename_i unspaced
        have whole : ∀ d ∈ c :: rest, (!Text.isSpace d) = true := by simpa using unspaced
        have longer : ∀ d ∈ c :: (rest ++ ['/']), (!Text.isSpace d) = true := by
          rw [← List.cons_append]
          intro d member
          rcases List.mem_append.mp member with early | last
          · exact whole d early
          · rw [List.mem_singleton.mp last]
            decide
        rw [readValue_of_unmarked unmarked, readValue_of_unmarked unmarked,
          List.takeWhile_eq_self_iff.mpr whole, List.dropWhile_eq_nil_iff.mpr whole,
          List.takeWhile_eq_self_iff.mpr longer, List.dropWhile_eq_nil_iff.mpr longer]
        exact ⟨rfl, rfl⟩

theorem assignmentEnding_of_equals {text rest : Text} (found : Text.skipSpace text = '=' :: rest) :
    assignmentEnding text = valueEnding (Text.skipSpace rest) := by
  rw [assignmentEnding, found]
  rfl

theorem assignmentEnding_of_other {text : Text}
    (other : (Text.skipSpace text).head?.any (· == '=') = false) :
    assignmentEnding text = .between := by
  unfold assignmentEnding
  split
  · rename_i found
    rw [found] at other
    cases other
  · rfl

theorem readAssignment_append_slash {text : Text} (between : assignmentEnding text = .between) :
    readAssignment false (text ++ ['/']) =
      ((readAssignment false text).1, (readAssignment false text).2 ++ ['/']) := by
  have skip := skipSpace_append_slash text
  rcases equals_or_other text with ⟨rest, found⟩ | other
  · rw [assignmentEnding_of_equals found] at between
    rw [found, List.cons_append] at skip
    rw [readAssignment_of_equals false skip, skipSpace_append_slash,
      readValue_append_slash between, readAssignment_of_equals false found]
  · have longer : (Text.skipSpace (text ++ ['/'])).head?.any (· == '=') = false := by
      rw [skip]
      cases found : Text.skipSpace text with
      | nil => decide
      | cons c rest =>
        rw [found] at other
        exact other
    rw [readAssignment_of_other false longer, readAssignment_of_other false other, skip]

theorem readAssignment_takes_slash {text : Text} (inside : assignmentEnding text ≠ .between) :
    readAssignment false text = ((readAssignment false text).1, []) ∧
      readAssignment false (text ++ ['/']) = ((readAssignment false text).1 ++ ['/'], []) := by
  have skip := skipSpace_append_slash text
  rcases equals_or_other text with ⟨rest, found⟩ | other
  · rw [assignmentEnding_of_equals found] at inside
    rw [found, List.cons_append] at skip
    rw [readAssignment_of_equals false skip, skipSpace_append_slash,
      readAssignment_of_equals false found]
    exact readValue_takes_slash inside
  · exact (inside (assignmentEnding_of_other other)).elim

theorem TakesSlash.cons {void : Bool} {front rest : Text} {entry : Attribute}
    (takes : TakesSlash void rest) (here : written void front = entry :: written void rest)
    (longer : written void (front ++ ['/']) = entry :: written void (rest ++ ['/'])) :
    TakesSlash void front := by
  obtain ⟨earlier, name, value, before, after⟩ := takes
  refine ⟨entry :: earlier, name, value, ?_, ?_⟩
  · rw [here, before, List.cons_append]
  · rw [longer, after, List.cons_append]

/-- A slash does not lengthen a name. -/
theorem isNameChar_append_slash (rest : Text) :
    (rest ++ ['/']).takeWhile isNameChar = rest.takeWhile isNameChar ∧
      (rest ++ ['/']).dropWhile isNameChar = rest.dropWhile isNameChar ++ ['/'] := by
  have stop : isNameChar '/' = false := by decide
  exact Text.run_append rest ['/'] fun _ => Text.stop_of_cons stop []

/-- What a slash at the end of a text is read as depends on where the text ends. -/
theorem written_append_slash (front : Text) :
    if ending front = .between then written false (front ++ ['/']) = written false front
    else TakesSlash false front := by
  fun_induction ending front with
  | case1 => exact written_of_skipped false (by decide) []
  | case2 c rest named between ih =>
    have here := written_cons false named rest
    have longer := written_cons false named (rest ++ ['/'])
    obtain ⟨run, left⟩ := isNameChar_append_slash rest
    rw [run, left, readAssignment_append_slash between] at longer
    split at ih
    · rename_i later
      rw [if_pos later, List.cons_append, longer, here, ih]
    · rename_i later
      rw [if_neg later]
      exact ih.cons here longer
  | case3 c rest named inside =>
    rw [if_neg inside]
    have here := written_cons false named rest
    have longer := written_cons false named (rest ++ ['/'])
    obtain ⟨run, left⟩ := isNameChar_append_slash rest
    obtain ⟨value, taken⟩ := readAssignment_takes_slash inside
    have ended := congrArg Prod.snd value
    rw [ended, written_nil] at here
    rw [run, left, taken, written_nil] at longer
    exact ⟨[], _, _, here, longer⟩
  | case4 c rest other ih =>
    have skipped : isNameChar c = false := Bool.eq_false_iff.mpr other
    have here := written_of_skipped false skipped rest
    have longer := written_of_skipped false skipped (rest ++ ['/'])
    split at ih
    · rename_i later
      rw [if_pos later, List.cons_append, longer, here, ih]
    · rename_i later
      rw [if_neg later]
      obtain ⟨earlier, name, value, before, after⟩ := ih
      exact ⟨earlier, name, value, here.trans before, longer.trans after⟩

/-! ## Whom a slash belongs to -/

theorem trim_append_slash (value : Text) :
    Text.trim (value ++ ['/']) = Text.trimStart value ++ ['/'] := by
  have ink : Text.isBlank '/' = false := by decide
  have start : Text.trimStart (value ++ ['/']) = Text.trimStart value ++ ['/'] :=
    (Text.run_append value ['/'] fun _ => Text.stop_of_cons ink []).2
  rw [Text.trim, start, Text.trimEnd, List.reverse_append, List.reverse_singleton,
    List.singleton_append, List.dropWhile_cons_of_neg (by simp [ink]), List.reverse_cons,
    List.reverse_reverse]

/-- A slash lengthens the value that it is read with. -/
theorem trim_append_slash_ne (value : Text) : Text.trim (value ++ ['/']) ≠ Text.trim value := by
  intro same
  have shorter := (Text.trimEnd_prefix (Text.trimStart value)).length_le
  have longer := congrArg List.length same
  rw [trim_append_slash, List.length_append, List.length_singleton, Text.trim] at longer
  omega

theorem not_takesSlash_of_written {void : Bool} {front : Text}
    (same : written void (front ++ ['/']) = written void front) : ¬ TakesSlash void front := by
  rintro ⟨earlier, name, value, before, after⟩
  have last := (List.append_inj' (after.symm.trans (same.trans before)) rfl).2
  have values := congrArg Attribute.value (List.cons.inj last).1
  exact trim_append_slash_ne value values

/-- A slash becomes part of a value exactly if it does not stand between attributes. -/
theorem takesSlash_iff {front : Text} : TakesSlash false front ↔ ending front ≠ .between := by
  have read := written_append_slash front
  split at read
  · rename_i between
    simp only [between, ne_eq, not_true_eq_false, iff_false]
    exact not_takesSlash_of_written read
  · rename_i inside
    exact ⟨fun _ => inside, fun _ => read⟩

/-- A text that is empty or ends in white space. -/
def Detached (text : Text) : Prop := ∀ c ∈ text.getLast?, Text.isSpace c = true

instance (text : Text) : Decidable (Detached text) :=
  inferInstanceAs (Decidable (∀ c ∈ text.getLast?, _))

theorem Detached.suffix {text rest : Text} (detached : Detached text) (within : rest <:+ text) :
    Detached rest := by
  obtain ⟨front, rfl⟩ := within
  intro c last
  apply detached c
  rw [List.getLast?_append, Option.mem_def.mp last]
  rfl

theorem readAssignment_suffix (void : Bool) (text : Text) :
    (readAssignment void text).2 <:+ text := by
  have skipped : Text.skipSpace text <:+ text := List.dropWhile_suffix _
  unfold readAssignment
  split
  · rename_i rest found
    rw [found] at skipped
    have after : Text.skipSpace rest <:+ text :=
      ((List.dropWhile_suffix _).trans (List.suffix_cons '=' rest)).trans skipped
    exact (readValue_suffix void _).trans after
  · exact skipped

theorem valueEnding_ne_unquoted {text : Text} (detached : Detached text) :
    valueEnding text ≠ .unquoted := by
  cases text with
  | nil => exact nofun
  | cons c rest =>
    have space := detached _ (List.getLast?_eq_getLast_of_ne_nil (List.cons_ne_nil c rest))
    have spaced : (c :: rest).any Text.isSpace = true :=
      List.any_eq_true.mpr ⟨_, List.getLast_mem _, space⟩
    rw [valueEnding, if_pos spaced]
    split
    · split <;> exact nofun
    · exact nofun

theorem assignmentEnding_ne_unquoted {text : Text} (detached : Detached text) :
    assignmentEnding text ≠ .unquoted := by
  unfold assignmentEnding
  split
  · rename_i rest found
    have within : '=' :: rest <:+ text := found ▸ List.dropWhile_suffix _
    have after := (List.dropWhile_suffix (l := rest) Text.isSpace).trans (List.suffix_cons '=' rest)
    exact valueEnding_ne_unquoted (detached.suffix (after.trans within))
  · exact nofun

/-- A value without quotation marks ends before white space. -/
theorem ending_ne_unquoted {front : Text} (detached : Detached front) :
    ending front ≠ .unquoted := by
  fun_induction ending front with
  | case1 => exact nofun
  | case2 c rest named between ih =>
    have after := (List.dropWhile_suffix (l := rest) isNameChar).trans (List.suffix_cons c rest)
    exact ih (detached.suffix ((readAssignment_suffix false _).trans after))
  | case3 c rest named inside =>
    have after := (List.dropWhile_suffix (l := rest) isNameChar).trans (List.suffix_cons c rest)
    exact assignmentEnding_ne_unquoted (detached.suffix after)
  | case4 c rest other ih => exact ih (detached.suffix (List.suffix_cons c rest))

theorem between_of_detached {front : Text} (detached : Detached front)
    (supplied : ending front ≠ .awaited) (unopened : ending front ≠ .quoted) :
    ending front = .between := by
  cases found : ending front with
  | between => rfl
  | awaited => exact absurd found supplied
  | unquoted => exact absurd found (ending_ne_unquoted detached)
  | quoted => exact absurd found unopened

end Attributes

namespace Markup

open Attributes

/-! ## Tags that close themselves -/

theorem exists_of_closesItself {area : Text} (closes : closesItself area = true) :
    ∃ front, area = front ++ ['/'] := by
  rcases closesItself_iff.mp closes with rfl | ⟨front, c, _, rfl⟩
  · exact ⟨[], rfl⟩
  · exact ⟨front ++ [c], by rw [List.append_assoc]; rfl⟩

theorem closesItself_append_slash {front : Text} :
    closesItself (front ++ ['/']) = true ↔ Detached front := by
  rw [closesItself_iff]
  constructor
  · rintro (only | ⟨more, c, space, whole⟩)
    · obtain rfl : front = [] := List.append_cancel_right only
      exact nofun
    · obtain rfl : front = more ++ [c] := by
        apply (List.append_left_inj ['/']).mp
        rw [whole, List.append_assoc]
        rfl
      intro d last
      rw [List.getLast?_append, List.getLast?_singleton] at last
      obtain rfl := Option.some.inj last
      exact space
  · intro detached
    rcases List.eq_nil_or_concat front with rfl | ⟨more, c, rfl⟩
    · exact .inl rfl
    · refine .inr ⟨more, c, detached c (by simp), ?_⟩
      rw [List.concat_eq_append, List.append_assoc]
      rfl

section Opening
variable {name area : Text} (opening : IsOpening name area) (other : isLineBreak name = false)
  (closes : closesItself area = true)

include opening other closes

/-- A tag that closes itself is cut as a tag by itself, wherever cutting comes upon it. -/
theorem eq_tag_of_closesItself {options : ScanOptions} {text rest : Text}
    {before after : List Segment} {part : Segment}
    (whole : segments options text = before ++ part :: after)
    (here : part.text ++ after.flatMap Segment.text = openingTag name area ++ rest) :
    part = .tag (openingTag name area) ∧ after.flatMap Segment.text = rest := by
  have cut := cutMarkup_of_segments whole here
  have ends : endsAtOpening options name area = true := by rw [endsAtOpening, closes, Bool.true_or]
  rw [opening.cutMarkup_eq options other, if_pos ends] at cut
  obtain ⟨rfl, rfl⟩ := Prod.mk.inj cut
  exact ⟨rfl, rfl⟩

theorem fragment?_of_closesItself (run : Text) :
    fragment? (openingTag name area ++ run) = some ⟨openingTag name area, name, .fragment⟩ := by
  rw [opening.fragment?_eq other, closes, Bool.true_or, if_pos rfl]

end Opening

/-- A tag that closes itself has a slash in front of its `>`. That slash belongs to a value exactly
if it does not stand between attributes, and it closes the tag exactly if it stands behind the name
or white space and belongs to no value. Nothing is said of a slash behind white space where a value
is still awaited or a quotation open. A tag that closes itself and is no line break is reported as a
slice or a fragment that ends at its `>`. -/
theorem closesItself_spec {name area : Text} (opening : IsOpening name area)
    (content : Category.ofName name ≠ .void) :
    (closesItself area = true → ∃ front, area = front ++ ['/']) ∧
    (∀ front, area = front ++ ['/'] →
      let taken := TakesSlash (Category.ofName name == .void) front
      (taken ↔ ending front ≠ .between) ∧
        ((Detached front → ending front ≠ .awaited ∧ ending front ≠ .quoted) →
          (closesItself area = true ↔ Detached front ∧ ¬ taken))) ∧
    (closesItself area = true → isLineBreak name = false →
      (∀ options html before part after rest,
        segments options (html.filter (· != '\n')) = before ++ part :: after →
        part.text ++ after.flatMap Segment.text = openingTag name area ++ rest →
        part = .tag (openingTag name area) ∧ after.flatMap Segment.text = rest ∧
          .ofText (openingTag name area) .scanned ∈ slices options html) ∧
      ∀ run, fragment? (openingTag name area ++ run) =
        some ⟨openingTag name area, name, .fragment⟩) := by
  have visible : (Category.ofName name == .void) = false := beq_false_of_ne content
  refine ⟨exists_of_closesItself, ?_, fun closes other => ⟨?_, ?_⟩⟩
  · rintro front rfl
    rw [visible]
    dsimp only
    refine ⟨takesSlash_iff, fun complete => ?_⟩
    rw [closesItself_append_slash, takesSlash_iff]
    constructor
    · intro detached
      obtain ⟨supplied, unopened⟩ := complete detached
      have between := between_of_detached detached supplied unopened
      exact ⟨detached, not_not_intro between⟩
    · exact And.left
  · intro options html before part after rest whole here
    obtain ⟨rfl, same⟩ := eq_tag_of_closesItself opening other closes whole here
    refine ⟨rfl, same, ?_⟩
    rw [slices_eq_flatMap, whole]
    simp [Segment.slices]
  · exact fragment?_of_closesItself opening other closes

/-- A slash behind white space after a quoted value closes the tag. One right behind an `=` is the
value and does not. -/
theorem closesItself_spec_detached :
    let name := "widget".toList
    let complete := " data-x=\"1\" ".toList
    let awaiting := " href=".toList
    let taken := TakesSlash (Category.ofName name == .void)
    Category.ofName name ≠ .void ∧
      IsOpening name (complete ++ ['/']) ∧ Detached complete ∧ ending complete = .between ∧
      closesItself (complete ++ ['/']) = true ∧ ¬ taken complete ∧
      IsOpening name (awaiting ++ ['/']) ∧ ¬ Detached awaiting ∧ ending awaiting = .awaited ∧
      closesItself (awaiting ++ ['/']) = false ∧ taken awaiting := by
  intro name complete awaiting taken
  have content : Category.ofName name ≠ .void := by decide
  have opening (front : Text) (first : ∀ c ∈ (front ++ ['/']).head?, Text.isWord c = false)
      (plain : '>' ∉ front ++ ['/']) : IsOpening name (front ++ ['/']) :=
    ⟨⟨by decide, List.all_eq_true.mp (by decide)⟩, first, plain⟩
  have first := opening complete (fun c first => Option.some.inj first ▸ by decide) (by decide)
  have second := opening awaiting (fun c first => Option.some.inj first ▸ by decide) (by decide)
  have between : ending complete = .between := by decide +kernel
  have awaited : ending awaiting = .awaited := by decide +kernel
  have detached : Detached complete := by decide
  have attached : ¬ Detached awaiting := by decide
  have agree := ((closesItself_spec first content).2.1 complete rfl).2
    fun _ => by rw [between]; decide
  obtain ⟨takes, agreeAwaiting⟩ := (closesItself_spec second content).2.1 awaiting rfl
  have stays : closesItself (awaiting ++ ['/']) = false := Bool.eq_false_iff.mpr fun closes =>
    attached ((agreeAwaiting (absurd · attached)).mp closes).1
  have closes : closesItself (complete ++ ['/']) = true := by decide
  exact ⟨content, first, detached, between, closes, (agree.mp closes).2, second, attached, awaited,
    stays, takes.mpr (by rw [awaited]; decide)⟩

/-- A slash right behind a closing quotation mark belongs to no value and does not close the tag,
which then waits for a closer. -/
theorem closesItself_behind_mark :
    ¬ (∀ name area, IsOpening name area → Category.ofName name ≠ .void →
      (closesItself area = true ↔
        ∃ front, area = front ++ ['/'] ∧ ¬ TakesSlash (Category.ofName name == .void) front)) ∧
    slices {} "<a b=\"v\"/>".toList = [] := by
  constructor
  · intro agree
    let front := " b=\"v\"".toList
    have opening : IsOpening "a".toList (front ++ ['/']) :=
      ⟨⟨by decide, List.all_eq_true.mp (by decide)⟩,
        fun c first => Option.some.inj first ▸ by decide, by decide⟩
    have between : ending front = .between := by decide +kernel
    have free : ¬ TakesSlash false front := fun takes => takesSlash_iff.mp takes between
    have closes := (agree _ _ opening (by decide)).mpr ⟨front, rfl, free⟩
    exact absurd closes (by decide)
  · decide +kernel

/-- Behind white space a slash closes the tag also where a value is awaited. The slash is that value
all the same, and what follows the tag is lost. -/
theorem closesItself_awaited :
    let front := " href= ".toList
    IsOpening "a".toList (front ++ ['/']) ∧ Detached front ∧ ending front = .awaited ∧
      closesItself (front ++ ['/']) = true ∧ TakesSlash false front ∧
      ofTag false (front ++ ['/']) = ⟨[⟨"href".toList, ['/']⟩]⟩ ∧
      slices {} "<a href= />text</a>".toList =
        [⟨"<a href= />".toList, "a".toList, .scanned⟩] := by
  intro front
  have awaited : ending front = .awaited := by decide +kernel
  refine ⟨⟨⟨by decide, List.all_eq_true.mp (by decide)⟩,
    fun c first => Option.some.inj first ▸ by decide, by decide⟩, by decide, awaited, by decide,
    takesSlash_iff.mpr (by rw [awaited]; decide), ?_, ?_⟩
  · decide +kernel
  · decide +kernel

end Markup

end TagQuery
