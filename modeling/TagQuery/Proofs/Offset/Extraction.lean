import TagQuery.Markup.Extraction
import TagQuery.Proofs.Markup.Descent
import TagQuery.Proofs.Offset.Element
import TagQuery.Proofs.Offset.Scan

/-!
# Extraction at byte offsets

Extraction with everything below it done at byte offsets: slices are scanned and read as bytes, and
deep extraction descends into ranges of the document that earlier scans have found.

`cuts_exist` is the statement about all of it. Reading a document never asks for a cut that is out
of order, out of range or inside of a character, nor for a difference below zero, whatever the
document; it ends within a number of steps that the length of the document bounds, and what is read
is what the reading of characters gives. So deep extraction, which copies no inner text, is the
recursion on copies here as well (`extractDeep_eq_recursion`).
-/

namespace TagQuery.Offset

open Text (utf8 utf8Length)

/-- The elements of the pending levels, each followed by the elements of its body, visited in a
number of steps. -/
def visit (input : Text) : Nat → List (List Markup.Capture) → Option (List Element)
  | _, [] => some []
  | 0, _ :: _ => none
  | steps + 1, [] :: levels => visit input steps levels
  | steps + 1, (capture :: level) :: levels => do
    let element? ← fromSlice capture.slice.text
    match element? with
    | none => visit input steps (level :: levels)
    | some element => do
      let later ←
        match Markup.bodyToScan? capture element with
        | none => visit input steps (level :: levels)
        | some body => do
          let inside ← scanRange {} input body
          visit input steps (inside :: level :: levels)
      return element :: later

/-- The elements of a document, one for each slice. -/
def extractShallow (html : Text) : Option (List Element) := do
  let captured ← run {} html
  let elements ← captured.mapM fun capture => fromSlice capture.slice.text
  return elements.filterMap id

/-- The elements of a document, each followed by the elements inside it. -/
def extractDeep (html : Text) : Option (List Element) := do
  let input := html.filter (· != '\n')
  let level ← scanRange {} input ⟨0, utf8Length input⟩
  visit input (2 * utf8Length input + 1) [level]

/-- The elements of a document in the given mode. -/
def extract (mode : ExtractMode) (html : Text) : Option (List Element) :=
  match mode with
  | .shallow => extractShallow html
  | .deep => extractDeep html

theorem slice_inBytes (input : Text) (capture : Markup.Capture) :
    (Capture.inBytes input capture).slice = capture.slice := rfl

theorem bodyToScan?_inBytes (input : Text) (capture : Markup.Capture) (element : Element) :
    Markup.bodyToScan? (Capture.inBytes input capture) element =
      (Markup.bodyToScan? capture element).map (Span.inBytes input) := by
  by_cases descends : Markup.descends capture.slice element = true
  · simp [Markup.bodyToScan?, Capture.inBytes, descends]
  · simp [Markup.bodyToScan?, Capture.inBytes, descends]

section Visit
variable {input : Text} {steps : Nat} {capture : Markup.Capture} {element : Element}
  {level : List Markup.Capture} {levels : List (List Markup.Capture)}

theorem visit_of_unread (unread : Element.ofSlice? capture.slice.text = none) :
    visit input (steps + 1) ((Capture.inBytes input capture :: level) :: levels) =
      visit input steps (level :: levels) := by
  rw [visit]
  dsimp only [Option.bind_eq_bind]
  rw [slice_inBytes, fromSlice_eq, unread, Option.bind_some]

theorem visit_of_not_descends (read : Element.ofSlice? capture.slice.text = some element)
    (absent : Markup.bodyToScan? capture element = none) :
    visit input (steps + 1) ((Capture.inBytes input capture :: level) :: levels) =
      (visit input steps (level :: levels)).map (element :: ·) := by
  rw [visit]
  dsimp only [Option.bind_eq_bind]
  rw [slice_inBytes, fromSlice_eq, read, Option.bind_some]
  dsimp only
  rw [bodyToScan?_inBytes, absent, Option.map_none, Option.map_eq_bind]
  rfl

/-- An element with a body to scan is followed by what the scan of that body captures. -/
theorem visit_of_descends {span : Markup.Span}
    (read : Element.ofSlice? capture.slice.text = some element)
    (found : Markup.bodyToScan? capture element = some span) :
    visit input (steps + 1) ((Capture.inBytes input capture :: level) :: levels) =
      (visit input steps (((Markup.captures span.start (Markup.segments {} (span.of input))).map
        (Capture.inBytes input)) :: level :: levels)).map (element :: ·) := by
  rw [visit]
  dsimp only [Option.bind_eq_bind]
  rw [slice_inBytes, fromSlice_eq, read, Option.bind_some]
  dsimp only
  rw [bodyToScan?_inBytes, found, Option.map_some]
  dsimp only
  rw [scanRange_eq, Option.bind_some, Option.map_eq_bind]
  rfl

end Visit

/-! ## How many steps a visit takes -/

/-- A bound of the steps that a visit of the pending levels takes: one for each level, and two for
each capture and each character of the bodies. -/
def visitSteps (levels : List (List Markup.Capture)) : Nat :=
  2 * Markup.pendingWeight levels + levels.length

theorem visitSteps_done (levels : List (List Markup.Capture)) :
    visitSteps levels < visitSteps ([] :: levels) := by
  simp only [visitSteps, Markup.pendingWeight_cons, Markup.weight, List.length_cons]
  omega

theorem visitSteps_visited (capture : Markup.Capture) (level : List Markup.Capture)
    (levels : List (List Markup.Capture)) :
    visitSteps (level :: levels) < visitSteps ((capture :: level) :: levels) := by
  simp only [visitSteps, Markup.pendingWeight_cons, Markup.weight_cons, Markup.Capture.weight,
    List.length_cons]
  omega

/-- The captures of a body and the level that holds them count less than the capture with the
body. -/
theorem visitSteps_descended {capture : Markup.Capture} {body : Markup.Span}
    {inside : List Markup.Capture} (level : List Markup.Capture)
    (levels : List (List Markup.Capture)) (lighter : Markup.weight inside ≤ body.length)
    (heavier : capture.weight = 1 + body.length) :
    visitSteps (inside :: level :: levels) < visitSteps ((capture :: level) :: levels) := by
  simp only [visitSteps, Markup.pendingWeight_cons, Markup.weight_cons, List.length_cons]
  omega

/-- The levels that are pending when ranges are counted in bytes are those of the characters, and
so is what visiting them gives. -/
theorem visit_eq (reader : Markup.IdleScanner) (levels : List (List Markup.Capture)) {steps : Nat}
    (default : reader.scanner.options = {}) (enough : visitSteps levels ≤ steps) :
    visit reader.scanner.input steps (levels.map (·.map (Capture.inBytes reader.scanner.input))) =
      some (Markup.visit reader levels) := by
  fun_induction Markup.visit reader levels generalizing steps with
  | case1 =>
    rw [List.map_nil, visit]
  | case2 reader levels ih =>
    have fewer := Nat.lt_of_lt_of_le (visitSteps_done levels) enough
    obtain ⟨steps, rfl⟩ := Nat.exists_eq_add_one.mpr (Nat.zero_lt_of_lt fewer)
    rw [List.map_cons, List.map_nil, visit]
    exact ih default (Nat.le_of_lt_succ fewer)
  | case3 reader capture level levels unread ih =>
    have fewer := Nat.lt_of_lt_of_le (visitSteps_visited capture level levels) enough
    obtain ⟨steps, rfl⟩ := Nat.exists_eq_add_one.mpr (Nat.zero_lt_of_lt fewer)
    rw [List.map_cons, List.map_cons, visit_of_unread unread]
    exact ih default (Nat.le_of_lt_succ fewer)
  | case4 reader capture level levels element read ihAfter ihInside =>
    have fewer := Nat.lt_of_lt_of_le (visitSteps_visited capture level levels) enough
    obtain ⟨steps, rfl⟩ := Nat.exists_eq_add_one.mpr (Nat.zero_lt_of_lt fewer)
    rw [List.map_cons, List.map_cons]
    split
    · rename_i absent
      rw [visit_of_not_descends read absent, ← List.map_cons,
        ihAfter default (Nat.le_of_lt_succ fewer)]
      rfl
    · rename_i span found
      have deeper := Nat.lt_of_lt_of_le (visitSteps_descended level levels
        (reader.scanner.weight_scan_le span reader.idle) (Markup.weight_of_bodyToScan? found)) enough
      have inside := ihInside span found default (Nat.le_of_lt_succ deeper)
      have scanned := Markup.scan_eq reader span
      rw [default] at scanned
      rw [visit_of_descends read found, ← scanned]
      exact congrArg (Option.map (element :: ·)) inside

/-! ## Whole documents -/

theorem extractShallow_eq (html : Text) :
    extractShallow html = some (Markup.extractShallow html) := by
  have elements (captured : List Markup.Capture) :
      captured.mapM (fun capture => fromSlice capture.slice.text) =
        some (captured.map fun capture => Element.ofSlice? capture.slice.text) := by
    simp only [fromSlice_eq]
    exact List.mapM_pure
  rw [extractShallow, run_eq]
  dsimp only [Option.bind_eq_bind, Option.bind_some]
  rw [elements, Option.bind_some, Markup.extractShallow, Markup.slices, Markup.Scanner.slices,
    List.map_map, List.filterMap_map, List.filterMap_map]
  rfl

theorem extractDeep_eq (html : Text) : extractDeep html = some (Markup.extractDeep html) := by
  let reader : Markup.IdleScanner := ⟨Markup.Scanner.ofText {} html, rfl⟩
  let input := html.filter (· != '\n')
  have whole : Span.inBytes input ⟨0, input.length⟩ = ⟨0, utf8Length input⟩ := by
    rw [Span.inBytes, List.take_length, List.take_zero, utf8Length_nil]
  have scanned := Markup.scan_eq reader ⟨0, input.length⟩
  have enough : visitSteps [(reader.scan ⟨0, input.length⟩).1] ≤ 2 * utf8Length input + 1 := by
    have light : Markup.weight (reader.scan ⟨0, input.length⟩).1 ≤ input.length :=
      reader.scanner.weight_scan_le ⟨0, input.length⟩ reader.idle
    have read := length_le_utf8Length input
    simp only [visitSteps, Markup.pendingWeight, List.length_cons, List.length_nil]
    omega
  have visited : visit input (2 * utf8Length input + 1)
      [(reader.scan ⟨0, input.length⟩).1.map (Capture.inBytes input)] =
        some (Markup.extractDeep html) :=
    visit_eq (reader.scan ⟨0, input.length⟩).2 [(reader.scan ⟨0, input.length⟩).1] rfl enough
  rw [scanned] at visited
  rw [extractDeep, ← whole]
  dsimp only [Option.bind_eq_bind]
  rw [scanRange_eq, Option.bind_some]
  exact visited

/-- The cut of the range of a body that a scan hands over is the inner text of its element. -/
theorem slice?_body_of_scanRange {options : ScanOptions} {input : Text} {span : Markup.Span}
    {captured : List Markup.Capture}
    (scanned : scanRange options input (Span.inBytes input span) = some captured)
    {capture : Markup.Capture} (member : capture ∈ captured) {range : Markup.Span}
    (found : capture.body? = some range) :
    ∃ element, Element.ofSlice? capture.slice.text = some element ∧
      slice? range.start range.stop input = some element.innerText := by
  rw [scanRange_eq] at scanned
  obtain rfl := Option.some.inj scanned
  obtain ⟨original, present, rfl⟩ := List.mem_map.mp member
  obtain ⟨body, held, rfl⟩ := Option.map_eq_some_iff.mp found
  let reader : Markup.IdleScanner := ⟨⟨options, input, 0, input.length, []⟩, rfl⟩
  have handed : original ∈ (reader.scan span).1 := by
    rw [Markup.scan_eq]
    exact present
  obtain ⟨element, read, inner⟩ := (Markup.faithful_scan reader span handed).body body held
  have ordered := Markup.start_le_stop_of_mem_captures present held
  exact ⟨element, read, (slice?_inBytes ordered input).trans (congrArg some inner)⟩

/-- Deep extraction at byte offsets is the recursion on copies, and the range of every body that a
scan of the document hands over is the place of the inner text. -/
theorem extractDeep_eq_recursion (html : Text) :
    extractDeep html = some (Markup.extractRecursively html) ∧
      ∀ span, ∃ captured,
        scanRange {} (html.filter (· != '\n')) (Span.inBytes (html.filter (· != '\n')) span) =
          some captured ∧
        ∀ capture ∈ captured, ∀ range, capture.body? = some range →
          ∃ element, Element.ofSlice? capture.slice.text = some element ∧
            slice? range.start range.stop (html.filter (· != '\n')) = some element.innerText := by
  constructor
  · rw [extractDeep_eq, Markup.extractDeep_eq_flatMap, Markup.extractRecursively_eq]
  · intro span
    have scanned := scanRange_eq {} (html.filter (· != '\n')) span
    exact ⟨_, scanned, fun capture member range => slice?_body_of_scanRange scanned member⟩

theorem extract_eq (mode : ExtractMode) (html : Text) :
    extract mode html = some (Markup.extract mode html) := by
  cases mode with
  | shallow => exact extractShallow_eq html
  | deep => exact extractDeep_eq html

/-- Every cut that the reading of a text makes at byte offsets exists, every difference that it
takes is a number, and the steps that its loops are given suffice. This is said of runs, of scans
of any range between boundaries, of both modes of extraction, of fragments, and of elements and
attributes of any text; what is read is each time what the reading of characters gives. -/
theorem cuts_exist :
    (∀ options html, run options html =
      some ((Markup.Scanner.ofText options html).run.captured.map
        (Capture.inBytes (html.filter (· != '\n'))))) ∧
    (∀ options input span, scanRange options input (Span.inBytes input span) =
      some ((Markup.captures span.start (Markup.segments options (span.of input))).map
        (Capture.inBytes input))) ∧
    (∀ mode html, extract mode html = some (Markup.extract mode html)) ∧
    (∀ text, (splitNested text).isSome = true ∧ (fragmentFrom text).isSome = true) ∧
    (∀ tail, splitNested ('<' :: tail) = some (Markup.fragments ('<' :: tail)) ∧
      fragmentFrom ('<' :: tail) = some (Markup.fragment? ('<' :: tail))) ∧
    (∀ slice, fromSlice slice = some (Element.ofSlice? slice)) ∧
    ∀ void head, parseAttributes void head = some (Attributes.ofTag void head) := by
  refine ⟨run_eq, scanRange_eq, extract_eq, fun text => ⟨?_, ?_⟩,
    fun tail => ⟨splitNested_markup tail, fragmentFrom_markup tail⟩, fromSlice_eq,
    parseAttributes_eq⟩
  · rw [splitNested_eq]
    rfl
  · rw [fragmentFrom_eq]
    rfl

end TagQuery.Offset
