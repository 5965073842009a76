import TagQuery.Markup.Attributes
import TagQuery.Proofs.Text.Cutting

/-!
# What attributes are read

The attributes that are read from a tag have names of name characters, no two of them the same, and
values that are trimmed and hold only characters of the tag (`ofTag_spec`). Reading gives each
attribute these properties by itself (`readFrom_of_mem_written`); inserting one among others keeps
the names apart.
-/

namespace TagQuery

/-! ## Trimmed texts -/

/-- A text with a blank at neither end. -/
def Text.Trimmed (text : Text) : Prop :=
  (∀ c ∈ text.head?, Text.isBlank c = false) ∧ ∀ c ∈ text.getLast?, Text.isBlank c = false

theorem Text.trimEnd_prefix (text : Text) : Text.trimEnd text <+: text := by
  have kept := List.reverse_prefix.mpr (List.dropWhile_suffix (l := text.reverse) Text.isBlank)
  rwa [List.reverse_reverse] at kept

theorem Text.trim_subset (text : Text) : Text.trim text ⊆ text :=
  List.Subset.trans (Text.trimEnd_prefix _).subset (List.dropWhile_suffix _).subset

theorem Text.head?_dropWhile_blank (text : Text) :
    ∀ c ∈ (text.dropWhile Text.isBlank).head?, Text.isBlank c = false := by
  obtain ⟨run, rest, rfl, inside, stop⟩ := Text.exists_run Text.isBlank text
  rwa [Text.dropWhile_run inside stop]

theorem Text.trimmed_trim (text : Text) : Text.Trimmed (Text.trim text) := by
  constructor
  · intro c first
    obtain ⟨more, whole⟩ := Text.trimEnd_prefix (Text.trimStart text)
    apply Text.head?_dropWhile_blank text c
    change c ∈ (Text.trimStart text).head?
    rw [← whole, List.head?_append, ← Text.trim, Option.mem_def.mp first]
    rfl
  · intro c last
    rw [Text.trim, Text.trimEnd, List.getLast?_reverse] at last
    exact Text.head?_dropWhile_blank _ c last

namespace Attributes

/-! ## What is read next -/

theorem readValue_of_mark (void : Bool) {mark : Char} (isMark : mark = '"' ∨ mark = '\'')
    {content : Text} (closed : mark ∉ content) (after : Text) :
    readValue void (mark :: (content ++ mark :: after)) = (content, after) := by
  have inside := Text.all_bne_of_notMem closed
  have stop : ∀ c ∈ (mark :: after).head?, (c != mark) = false := by simp
  rw [readValue, if_pos isMark, Text.takeWhile_run inside stop, Text.dropWhile_run inside stop]
  rfl

/-- A name is followed by `=`, or by nothing that is read with it. -/
theorem equals_or_other (text : Text) :
    (∃ rest, Text.skipSpace text = '=' :: rest) ∨
      (Text.skipSpace text).head?.any (· == '=') = false := by
  cases found : Text.skipSpace text with
  | nil => exact .inr rfl
  | cons c rest =>
    by_cases equals : c = '='
    · exact .inl ⟨rest, by rw [equals]⟩
    · exact .inr (beq_eq_false_iff_ne.mpr equals)

theorem readAssignment_of_equals (void : Bool) {text rest : Text}
    (found : Text.skipSpace text = '=' :: rest) :
    readAssignment void text = readValue void (Text.skipSpace rest) := by
  rw [readAssignment, found]
  rfl

theorem readAssignment_of_other (void : Bool) {text : Text}
    (other : (Text.skipSpace text).head?.any (· == '=') = false) :
    readAssignment void text = ([], Text.skipSpace text) := by
  unfold readAssignment
  split
  · rename_i found
    rw [found] at other
    cases other
  · rfl

theorem written_nil (void : Bool) : written void [] = [] := by
  rw [written]

/-- The attributes of a text that starts with a name. -/
theorem written_cons (void : Bool) {c : Char} (named : isNameChar c = true) (rest : Text) :
    written void (c :: rest) =
      ⟨c :: rest.takeWhile isNameChar,
        Text.trim (readAssignment void (rest.dropWhile isNameChar)).1⟩ ::
        written void (readAssignment void (rest.dropWhile isNameChar)).2 := by
  rw [written, if_pos named]

theorem written_of_skipped (void : Bool) {c : Char} (other : isNameChar c = false) (rest : Text) :
    written void (c :: rest) = written void rest := by
  rw [written, if_neg (Bool.eq_false_iff.mp other)]

/-! ## Reading -/

/-- An attribute as it may be read from the area of a tag. -/
structure ReadFrom (area : Text) (entry : Attribute) : Prop where
  nonempty : entry.name ≠ []
  named : ∀ c ∈ entry.name, isNameChar c = true
  trimmed : Text.Trimmed entry.value
  inside : entry.value ⊆ area

theorem ReadFrom.mono {area whole : Text} {entry : Attribute} (read : ReadFrom area entry)
    (within : area ⊆ whole) : ReadFrom whole entry :=
  { read with inside := List.Subset.trans read.inside within }

theorem readValue_subset (void : Bool) (text : Text) : (readValue void text).1 ⊆ text := by
  unfold readValue
  split
  · exact List.Subset.refl _
  · rename_i c rest
    dsimp only
    split
    · exact List.Subset.trans (List.takeWhile_prefix _).subset (List.subset_cons_self c rest)
    · split
      · exact List.Subset.trans (List.dropLast_subset _) (List.takeWhile_prefix _).subset
      · exact (List.takeWhile_prefix _).subset

theorem readValue_suffix (void : Bool) (text : Text) : (readValue void text).2 <:+ text := by
  unfold readValue
  split
  · exact List.suffix_refl _
  · rename_i c rest
    dsimp only
    split
    · exact (List.drop_suffix ..).trans ((List.dropWhile_suffix _).trans (List.suffix_cons c rest))
    · split <;> exact List.dropWhile_suffix _

/-- What is read after a name, and what is left, are characters of the text. -/
theorem readAssignment_subset (void : Bool) (text : Text) :
    (readAssignment void text).1 ⊆ text ∧ (readAssignment void text).2 ⊆ text := by
  have skipped : Text.skipSpace text ⊆ text := (List.dropWhile_suffix Text.isSpace).subset
  unfold readAssignment
  split
  · rename_i rest found
    rw [found] at skipped
    have after : Text.skipSpace rest ⊆ text := List.Subset.trans (List.dropWhile_suffix _).subset
      (List.Subset.trans (List.subset_cons_self '=' rest) skipped)
    exact ⟨List.Subset.trans (readValue_subset void _) after,
      List.Subset.trans (readValue_suffix void _).subset after⟩
  · exact ⟨List.nil_subset _, skipped⟩

theorem readFrom_of_mem_written {void : Bool} {area : Text} {entry : Attribute}
    (member : entry ∈ written void area) : ReadFrom area entry := by
  fun_induction written void area with
  | case1 => cases member
  | case2 c rest named assigned ih =>
    have after : rest.dropWhile isNameChar ⊆ c :: rest :=
      List.Subset.trans (List.dropWhile_suffix _).subset (List.subset_cons_self c rest)
    obtain ⟨value, left⟩ := readAssignment_subset void (rest.dropWhile isNameChar)
    rcases List.mem_cons.mp member with rfl | later
    · refine ⟨List.cons_ne_nil _ _, ?_, Text.trimmed_trim _,
        List.Subset.trans (Text.trim_subset _) (List.Subset.trans value after)⟩
      intro d inside
      rcases List.mem_cons.mp inside with rfl | further
      · exact named
      · exact List.mem_takeWhile_imp further
    · exact (ih later).mono (List.Subset.trans left after)
  | case3 c rest _ ih => exact (ih member).mono (List.subset_cons_self c rest)

/-! ## Inserting -/

/-- Attributes no two of which have the same name. -/
def Distinct (entries : List Attribute) : Prop :=
  entries.Pairwise fun first second => Text.sameName first.name second.name = false

section Insert
variable {name value : Text} {entries : List Attribute}

/-- After an insertion there are the old names and perhaps the new one, each with an old value or
the new one. -/
theorem mem_insertInto {entry : Attribute} (member : entry ∈ insertInto name value entries) :
    (entry.name = name ∨ ∃ old ∈ entries, old.name = entry.name) ∧
      (entry.value = value ∨ entry ∈ entries) := by
  induction entries with
  | nil =>
    obtain rfl := List.mem_singleton.mp member
    exact ⟨.inl rfl, .inl rfl⟩
  | cons first rest ih =>
    unfold insertInto at member
    split at member
    · rcases List.mem_cons.mp member with rfl | later
      · exact ⟨.inr ⟨first, List.mem_cons_self, rfl⟩, .inl rfl⟩
      · have held := List.mem_cons_of_mem first later
        exact ⟨.inr ⟨entry, held, rfl⟩, .inr held⟩
    · rcases List.mem_cons.mp member with rfl | later
      · exact ⟨.inr ⟨entry, List.mem_cons_self, rfl⟩, .inr List.mem_cons_self⟩
      · obtain ⟨names, values⟩ := ih later
        refine ⟨names.imp_right ?_, values.imp_right (List.mem_cons_of_mem first)⟩
        rintro ⟨old, inside, same⟩
        exact ⟨old, List.mem_cons_of_mem first inside, same⟩

theorem distinct_insertInto (distinct : Distinct entries) :
    Distinct (insertInto name value entries) := by
  induction entries with
  | nil => exact List.pairwise_singleton _ _
  | cons first rest ih =>
    obtain ⟨apart, later⟩ := List.pairwise_cons.mp distinct
    unfold insertInto
    split
    · exact List.pairwise_cons.mpr ⟨apart, later⟩
    · rename_i other
      refine List.pairwise_cons.mpr ⟨fun entry member => ?_, ih later⟩
      rcases (mem_insertInto member).1 with same | ⟨old, inside, same⟩
      · rw [same]
        exact Bool.eq_false_iff.mpr other
      · rw [← same]
        exact apart old inside

end Insert

theorem ReadFrom.insertInto {area : Text} {entry : Attribute} {entries : List Attribute}
    (read : ReadFrom area entry) (all : ∀ old ∈ entries, ReadFrom area old) :
    ∀ held ∈ insertInto entry.name entry.value entries, ReadFrom area held := by
  intro held member
  obtain ⟨names, values⟩ := mem_insertInto member
  have name : held.name ≠ [] ∧ ∀ c ∈ held.name, isNameChar c = true := by
    rcases names with same | ⟨old, inside, same⟩
    · rw [same]
      exact ⟨read.nonempty, read.named⟩
    · rw [← same]
      exact ⟨(all old inside).nonempty, (all old inside).named⟩
  have value : Text.Trimmed held.value ∧ held.value ⊆ area := by
    rcases values with same | inside
    · rw [same]
      exact ⟨read.trimmed, read.inside⟩
    · exact ⟨(all held inside).trimmed, (all held inside).inside⟩
  exact ⟨name.1, name.2, value.1, value.2⟩

theorem foldl_insert_spec {area : Text} {list : List Attribute} {attributes : Attributes}
    (read : ∀ entry ∈ list, ReadFrom area entry) (distinct : Distinct attributes.toList)
    (all : ∀ entry ∈ attributes.toList, ReadFrom area entry) :
    let result := list.foldl (fun held entry => held.insert entry.name entry.value) attributes
    Distinct result.toList ∧ ∀ entry ∈ result.toList, ReadFrom area entry := by
  induction list generalizing attributes with
  | nil => exact ⟨distinct, all⟩
  | cons entry rest ih =>
    obtain ⟨first, later⟩ := List.forall_mem_cons.mp read
    exact ih later (distinct_insertInto distinct) (first.insertInto all)

/-- The attributes of a tag have different names, and each is as it may be read from the tag. -/
theorem ofTag_spec (void : Bool) (area : Text) :
    Distinct (ofTag void area).toList ∧ ∀ entry ∈ (ofTag void area).toList, ReadFrom area entry := by
  have nothing : Distinct empty.toList := .nil
  exact foldl_insert_spec (fun _ member => readFrom_of_mem_written member) nothing nofun

end Attributes

end TagQuery
