import TagQuery.Proofs.Markup.Descent
import TagQuery.Proofs.Markup.Enclosure
import TagQuery.Proofs.Offset.Scan

/-!
# Scanning windows in place

A scanner holds its document once and scans one window of it after the other. What it finds it
keeps in two lists, one of the slices and one of the ranges of their bodies, which are appended to
separately and are paired off by place when a window is done. The same value is turned to the next
window, so its position, its limit and both lists have been used before.

Each step of the scanner records what the step without lists captures, both halves of each capture
at once (`scanTag_eq`, `run_eq`). So nothing is cut off when the lists are paired, and a scan of a
scanner that has handed over what it found depends on the document and the window only (`scan_eq`).
`scan_window` says of every scanner that scans have led to what it finds in a window: what a
fresh scanner finds in a copy of that window, with a range for exactly the slices that a balanced
closer ends.
-/

namespace TagQuery.Offset

open Text (utf8 utf8Length)

/-- A document, how far it has been read, and what has been found and not been handed over. -/
structure Scanner where
  options : ScanOptions
  /-- The document without line feeds. -/
  input : Text
  /-- The next byte to read. -/
  position : Nat
  /-- The byte in front of which reading ends. -/
  limit : Nat
  slices : List Slice
  /-- The range of the body of each slice, by its place in the list of slices. -/
  bodies : List (Option Markup.Span)

namespace Scanner

/-- A scanner at the start of a document. -/
def ofText (options : ScanOptions) (html : Text) : Scanner :=
  let input := html.filter (· != '\n')
  ⟨options, input, 0, utf8Length input, [], []⟩

/-- Records what stands from a position to another, both included. -/
def emit (scanner : Scanner) (start stop : Nat) (origin : Origin) (body? : Option Markup.Span) :
    Option Scanner := do
  let text ← slice? start (stop + 1) scanner.input
  let name ← wordRun 1 text
  return { scanner with
    slices := scanner.slices ++ [⟨text, name, origin⟩]
    bodies := scanner.bodies ++ [body?] }

/-- Records a nestable slice and its fragments. -/
def emitNestable (scanner : Scanner) (start stop : Nat) (body : Markup.Span) : Option Scanner := do
  let text ← slice? start (stop + 1) scanner.input
  let fragments ← splitNested text
  if fragments.isEmpty then scanner.emit start stop .scanned (some body)
  else do
    let whole ← scanner.emit start stop .refined none
    return { whole with
      slices := whole.slices ++ fragments
      bodies := whole.bodies ++ fragments.map fun _ => none }

/-- Records an element from its `<` to the `>` of its closer, and says where to resume. -/
def scanBody (scanner : Scanner) (start openEnd stop : Nat) (name : Text) :
    Option (Nat × Scanner) := do
  let nameStart ← subtract? stop (utf8Length name)
  let bodyEnd ← subtract? nameStart 2
  let body := ⟨openEnd + 1, bodyEnd⟩
  if Category.ofName name = .nestable then do
    let next ← scanner.emitNestable start stop body
    return (stop + 1, next)
  else do
    let next ← scanner.emit start stop .scanned (some body)
    return (stop + 1, next)

/-- Records what starts with an opening tag, given its name and where its `>` stands, and says where
to resume. -/
def scanElement (scanner : Scanner) (start openEnd : Nat) (name : Text) :
    Option (Nat × Scanner) := do
  let text ← upTo? scanner.limit scanner.input
  let closed ← selfClosing (start + 1 + utf8Length name) openEnd (utf8 text)
  if closed || endsByCategory scanner.options name then do
    let next ← scanner.emit start openEnd .scanned none
    return (openEnd + 1, next)
  else do
    let close? ← findBalancedClose scanner.input scanner.limit openEnd name
    match close? with
    | none => return (openEnd + 1, scanner)
    | some stop => scanner.scanBody start openEnd stop name

/-- Handles the `<` at a position, and says where to resume. -/
def scanTag (scanner : Scanner) (start : Nat) : Option (Nat × Scanner) := do
  let text ← upTo? scanner.limit scanner.input
  if (utf8 text)[start + 1]?.any (· == '!'.toUInt8) then do
    let rest ← from? start text
    if Text.startsWith ['<', '!', '-', '-'] rest then
      return ((findText ['-', '-', '>'] (start + 4) text).elim scanner.limit (· + 3), scanner)
    else return (← skipPastClose scanner.input scanner.limit start, scanner)
  else if (utf8 text)[start + 1]?.any fun b => b == '?'.toUInt8 || b == '/'.toUInt8 then
    return (← skipPastClose scanner.input scanner.limit start, scanner)
  else do
    let name ← wordRun (start + 1) text
    if name.isEmpty then return (start + 1, scanner)
    else if Markup.isLineBreak name then
      return (← skipPastClose scanner.input scanner.limit start, scanner)
    else
      match findByte '>'.toUInt8 start (utf8 text) with
      | none => return (scanner.limit, scanner)
      | some openEnd => scanner.scanElement start openEnd name

/-- Handles one `<` after the other, in a number of steps. -/
def runFrom : Nat → Scanner → Option Scanner
  | 0, _ => none
  | steps + 1, scanner => do
    let bytes ← bytesUpTo? scanner.limit (utf8 scanner.input)
    match findByte '<'.toUInt8 scanner.position bytes with
    | none => return scanner
    | some start => do
      let (next, found) ← scanner.scanTag start
      runFrom steps { found with position := next }

/-- A scanner that has come to its limit. -/
def halt (scanner : Scanner) : Scanner := { scanner with position := scanner.limit }

/-- Reads on to the limit. -/
def run (scanner : Scanner) : Option Scanner := (runFrom (scanner.limit + 1) scanner).map halt

/-- A scanner that is going to read a range of its document. -/
def turn (scanner : Scanner) (range : Markup.Span) : Scanner :=
  { scanner with position := range.start, limit := min range.stop (utf8Length scanner.input) }

/-- Reads a range of the document and hands over what has been found: each slice with the range of
its body, for as long as there are both. -/
def scan (scanner : Scanner) (range : Markup.Span) :
    Option (List (Slice × Option Markup.Span) × Scanner) := do
  let read ← (scanner.turn range).run
  return (read.slices.zip read.bodies, { read with slices := [], bodies := [] })

/-! ## The lists are filled in step -/

/-- A scanner that has recorded some captures more. -/
def add (scanner : Scanner) (found : List Markup.Capture) : Scanner :=
  { scanner with
    slices := scanner.slices ++ found.map Markup.Capture.slice
    bodies := scanner.bodies ++ found.map Markup.Capture.body? }

theorem add_nil (scanner : Scanner) : scanner.add [] = scanner := by
  simp only [add, List.map_nil, List.append_nil]

theorem add_append (scanner : Scanner) (found later : List Markup.Capture) :
    scanner.add (found ++ later) = (scanner.add found).add later := by
  simp only [add, List.map_append, List.append_assoc]

/-- Two computations that start alike differ by a map if what comes after the start does. -/
theorem bind_eq_map_bind {α β γ : Type} {start? : Option α} {first : α → Option γ}
    {second : α → Option β} {convert : β → γ}
    (same : ∀ value, first value = (second value).map convert) :
    (start? >>= first) = (start? >>= second).map convert := by
  cases start? with
  | none => rfl
  | some value => exact same value

section Step
variable (scanner : Scanner) (start stop openEnd : Nat) (name : Text)

theorem emit_eq (origin : Origin) (body? : Option Markup.Span) :
    scanner.emit start stop origin body? =
      (Offset.emit scanner.input start stop origin body?).map fun capture =>
        scanner.add [capture] :=
  bind_eq_map_bind fun _ => bind_eq_map_bind fun _ => rfl

/-- A refined slice and its fragments are as many slices as they are entries without a body. -/
theorem emitNestable_eq (body : Markup.Span) :
    scanner.emitNestable start stop body =
      (Offset.emitNestable scanner.input start stop body).map scanner.add := by
  refine bind_eq_map_bind fun text => bind_eq_map_bind fun fragments => ?_
  rw [emit_eq, emit_eq]
  split
  · cases Offset.emit scanner.input start stop .scanned (some body) <;> rfl
  · cases Offset.emit scanner.input start stop .refined none with
    | none => rfl
    | some whole => simp [add, Function.comp_def]

theorem scanBody_eq :
    scanner.scanBody start openEnd stop name =
      (Offset.scanBody scanner.input start openEnd stop name).map (Prod.map id scanner.add) := by
  refine bind_eq_map_bind fun nameStart => bind_eq_map_bind fun bodyEnd => ?_
  dsimp only
  rw [emitNestable_eq, emit_eq]
  split
  · cases Offset.emitNestable scanner.input start stop ⟨openEnd + 1, bodyEnd⟩ <;> rfl
  · cases Offset.emit scanner.input start stop .scanned (some ⟨openEnd + 1, bodyEnd⟩) <;> rfl

theorem scanElement_eq :
    scanner.scanElement start openEnd name =
      (Offset.scanElement scanner.options scanner.input scanner.limit start openEnd name).map
        (Prod.map id scanner.add) := by
  refine bind_eq_map_bind fun text => bind_eq_map_bind fun closed => ?_
  split
  · rw [emit_eq]
    cases Offset.emit scanner.input start openEnd .scanned none <;> rfl
  · refine bind_eq_map_bind fun close? => ?_
    cases close? with
    | none => simp [add_nil]
    | some stop => exact scanBody_eq ..

/-- What the scanner records at a `<` are the captures of the step there. -/
theorem scanTag_eq :
    scanner.scanTag start =
      (Offset.scanTag scanner.options scanner.input scanner.limit start).map
        (Prod.map id scanner.add) := by
  have skipped (next : Nat) :
      some (next, scanner) = (some (next, [])).map (Prod.map id scanner.add) := by
    rw [Option.map_some, Prod.map_apply, add_nil, id_eq]
  refine bind_eq_map_bind fun text => ?_
  split
  · refine bind_eq_map_bind fun rest => ?_
    split
    · exact skipped _
    · exact bind_eq_map_bind skipped
  · split
    · exact bind_eq_map_bind skipped
    · refine bind_eq_map_bind fun name => ?_
      split
      · exact skipped _
      · split
        · exact bind_eq_map_bind skipped
        · cases findByte '>'.toUInt8 start (utf8 text) with
          | none => exact skipped _
          | some openEnd => exact scanElement_eq ..

end Step

/-- What the scanner records until it halts are the captures of the run. -/
theorem runFrom_eq (steps : Nat) (scanner : Scanner) :
    (runFrom steps scanner).map halt =
      (Offset.runFrom scanner.options scanner.input scanner.limit steps scanner.position).map
        fun found => (scanner.add found).halt := by
  induction steps generalizing scanner with
  | zero => rfl
  | succ steps ih =>
    rw [runFrom, Offset.runFrom]
    cases bytesUpTo? scanner.limit (utf8 scanner.input) with
    | none => rfl
    | some bytes =>
      dsimp only [Option.bind_eq_bind, Option.bind_some]
      cases findByte '<'.toUInt8 scanner.position bytes with
      | none =>
        dsimp only
        rw [Option.pure_def, Option.pure_def, Option.map_some, Option.map_some, add_nil]
      | some start =>
        dsimp only
        rw [scanTag_eq]
        cases Offset.scanTag scanner.options scanner.input scanner.limit start with
        | none => rfl
        | some step =>
          obtain ⟨next, found⟩ := step
          -- Where the scanner stands in between is forgotten when it halts.
          have later : (runFrom steps { scanner.add found with position := next }).map halt =
              (Offset.runFrom scanner.options scanner.input scanner.limit steps next).map
                fun after => ((scanner.add found).add after).halt := ih _
          simp only [Option.map_some, Option.bind_some, Prod.map_apply, id_eq]
          refine later.trans ?_
          cases Offset.runFrom scanner.options scanner.input scanner.limit steps next with
          | none => rfl
          | some after =>
            rw [Option.map_some, ← add_append]
            rfl

theorem run_eq (scanner : Scanner) :
    scanner.run =
      (Offset.runFrom scanner.options scanner.input scanner.limit (scanner.limit + 1)
        scanner.position).map fun found => (scanner.add found).halt :=
  runFrom_eq ..

/-! ## One scan after the other -/

/-- A scanner of a document that has handed over everything it found. -/
structure Idle (options : ScanOptions) (html : Text) (scanner : Scanner) : Prop where
  options : scanner.options = options
  input : scanner.input = html.filter (· != '\n')
  slices : scanner.slices = []
  bodies : scanner.bodies = []

/-- The scanners that scans of a document lead to, one after the other. -/
inductive Reached (options : ScanOptions) (html : Text) : Scanner → Prop
  | start : Reached options html (ofText options html)
  | scan {scanner next : Scanner} {range : Markup.Span}
      {found : List (Slice × Option Markup.Span)} (reached : Reached options html scanner)
      (scanned : scanner.scan range = some (found, next)) : Reached options html next

section Scan
variable {options : ScanOptions} {html : Text} {scanner : Scanner}

theorem idle_ofText (options : ScanOptions) (html : Text) :
    Idle options html (ofText options html) := ⟨rfl, rfl, rfl, rfl⟩

/-- The scanner that a scan of a range leaves behind. -/
def behind (options : ScanOptions) (html : Text) (range : Markup.Span) : Scanner :=
  let input := html.filter (· != '\n')
  let limit := min range.stop (utf8Length input)
  ⟨options, input, limit, limit, [], []⟩

theorem idle_behind (options : ScanOptions) (html : Text) (range : Markup.Span) :
    Idle options html (behind options html range) := ⟨rfl, rfl, rfl, rfl⟩

theorem Idle.run_turn (idle : Idle options html scanner) (range : Markup.Span) :
    (scanner.turn range).run =
      (scanRange options (html.filter (· != '\n')) range).map fun captured =>
        { behind options html range with
          slices := captured.map Markup.Capture.slice
          bodies := captured.map Markup.Capture.body? } := by
  obtain ⟨options, input, position, limit, slices, bodies⟩ := scanner
  obtain ⟨rfl, rfl, rfl, rfl⟩ := idle
  exact run_eq _

/-- What a scan hands over and leaves behind depends on the document and the range only, and nothing
is left over when slices and bodies are paired. -/
theorem Idle.scan_eq (idle : Idle options html scanner) (range : Markup.Span) :
    scanner.scan range =
      (scanRange options (html.filter (· != '\n')) range).map fun captured =>
        (captured.map fun capture => (capture.slice, capture.body?),
          behind options html range) := by
  rw [scan, idle.run_turn]
  cases scanRange options (html.filter (· != '\n')) range with
  | none => rfl
  | some captured =>
    simp only [Option.map_some, Option.bind_eq_bind, Option.bind_some, List.zip_map']
    rfl

theorem Idle.next {next : Scanner} {range : Markup.Span} {found : List (Slice × Option Markup.Span)}
    (idle : Idle options html scanner) (scanned : scanner.scan range = some (found, next)) :
    Idle options html next := by
  rw [idle.scan_eq] at scanned
  obtain ⟨captured, -, same⟩ := Option.map_eq_some_iff.mp scanned
  obtain ⟨-, rfl⟩ := Prod.mk.inj same
  exact idle_behind ..

theorem Reached.idle (reached : Reached options html scanner) : Idle options html scanner := by
  induction reached with
  | start => exact idle_ofText ..
  | scan _ scanned ih => exact ih.next scanned

end Scan

end Scanner

/-! ## The bodies in a window -/

/-- A slice that is its opening tag, up to the first `>`, a body, and the closer that balances the
opening tag. -/
structure ClosedBy (slice : Slice) (opening body closing : Text) : Prop where
  cut : Text.splitAfter? '>' slice.text = some (opening, body ++ closing)
  first : Markup.BalancesFirst slice.name (body ++ closing) body closing

/-- What is true of the range that comes with a slice of a window. -/
structure Locates (input : Text) (window : Markup.Span) (slice : Slice)
    (body? : Option Markup.Span) : Prop where
  /-- There is a range exactly for a slice of the document that a balanced closer ends. -/
  present : body?.isSome = true ↔
    slice.origin = .scanned ∧ ∃ opening body closing, ClosedBy slice opening body closing
  inside : ∀ range, body? = some range →
    window.start < range.start ∧ range.start ≤ range.stop ∧ range.stop < window.stop
  /-- The range is where the body stands in the slice, and the slice in the document. -/
  holds : ∀ range, body? = some range → ∃ start opening body closing,
    ClosedBy slice opening body closing ∧
    slice? start (start + utf8Length slice.text) input = some slice.text ∧
    range = ⟨start + utf8Length opening, start + utf8Length opening + utf8Length body⟩ ∧
    slice? range.start range.stop input = some body

theorem locates_none {input : Text} {window : Markup.Span} {slice : Slice}
    (unclosed : slice.origin = .scanned →
      ¬ ∃ opening body closing, ClosedBy slice opening body closing) :
    Locates input window slice none where
  present := ⟨nofun, fun ⟨scanned, closed⟩ => absurd closed (unclosed scanned)⟩
  inside := nofun
  holds := nofun

/-- Where a slice that a balanced closer ends stands in a window, its body is inside of it. -/
theorem ClosedBy.locates {window : Markup.Span} {slice : Slice} {opening body closing : Text}
    (closed : ClosedBy slice opening body closing) (scanned : slice.origin = .scanned)
    {before : Text} (starts : window.start ≤ utf8Length before)
    (ends : utf8Length before + utf8Length slice.text ≤ window.stop) (after : Text) :
    Locates (before ++ slice.text ++ after) window slice
      (some ⟨utf8Length before + utf8Length opening,
        utf8Length before + utf8Length opening + utf8Length body⟩) := by
  obtain ⟨tag, rfl, split, -⟩ := Text.splitAfter?_eq_some_iff.mp closed.cut
  have whole : slice.text = (tag ++ ['>']) ++ body ++ closing := by simpa using split
  have place : At (before ++ slice.text ++ after) (utf8Length before) (slice.text ++ after) := by
    rw [List.append_assoc]
    exact At.append ..
  have parts : At (before ++ slice.text ++ after) (utf8Length before)
      ((tag ++ ['>']) ++ (body ++ (closing ++ after))) := by
    simpa only [whole, List.append_assoc] using place
  have closer := length_le_utf8Length closing
  rw [closed.first.balances.length_closing] at closer
  rw [whole] at ends
  simp only [utf8Length_append, utf8Length_singleton, utf8Size_greater] at ends
  refine ⟨iff_of_true rfl ⟨scanned, _, _, _, closed⟩, fun range found => ?_, fun range found => ?_⟩
  · obtain rfl := Option.some.inj found
    simp only [utf8Length_append, utf8Length_singleton, utf8Size_greater]
    omega
  · obtain rfl := Option.some.inj found
    exact ⟨_, _, _, _, closed, place.slice?_eq rfl, rfl, parts.advance.slice?_eq rfl⟩

section Opening
variable {name area : Text} (opening : Markup.IsOpening name area) (origin : Origin)

include opening

theorem not_closedBy_openingTag :
    ¬ ∃ front body closing,
      ClosedBy (.ofText (Markup.openingTag name area) origin) front body closing := by
  rintro ⟨front, body, closing, cut, first⟩
  have whole := opening.splitAfter?_openingTag []
  rw [List.append_nil] at whole
  obtain ⟨-, empty⟩ := Prod.mk.inj (Option.some.inj (whole.symm.trans cut))
  have size := first.balances.length_closing
  rw [(List.append_eq_nil_iff.mp empty.symm).2] at size
  cases size

theorem closedBy_element {body closing rest : Text}
    (first : Markup.BalancesFirst name (body ++ closing ++ rest) body closing) :
    ClosedBy (.ofText (Markup.openingTag name area ++ body ++ closing) origin)
      (Markup.openingTag name area) body closing := by
  have named : Markup.tagName (Markup.openingTag name area ++ body ++ closing) = name := by
    rw [List.append_assoc, opening.tagName_openingTag]
  constructor
  · rw [Slice.ofText, List.append_assoc, opening.splitAfter?_openingTag]
  · rw [Slice.ofText, named]
    exact ⟨first.balances, List.prefix_rfl, fun other tag within =>
      first.first other tag (within.trans (List.prefix_append ..))⟩

end Opening

/-- The ranges that come with the slices of a segment are true of the document around it. -/
theorem locates_captures {options : ScanOptions} {segment : Markup.Segment} {rest : Text}
    (fits : segment.Fits options rest) (window : Markup.Span) {before : Text} (after : Text)
    (starts : window.start ≤ utf8Length before)
    (ends : utf8Length before + utf8Length segment.text ≤ window.stop)
    {capture : Markup.Capture} (member : capture ∈ segment.captures before.length) :
    Locates (before ++ segment.text ++ after) window capture.slice
      (Capture.inBytes (before ++ segment.text ++ after) capture).body? := by
  cases segment with
  | tag text =>
    obtain ⟨name, area, rfl, opening, -⟩ := fits
    obtain rfl := List.mem_singleton.mp member
    exact locates_none fun _ => not_closedBy_openingTag opening .scanned
  | element text body closing =>
    obtain ⟨name, area, rfl, opening, -, -, first⟩ := fits
    simp only [Markup.Segment.captures] at member
    split at member
    · obtain rfl := List.mem_singleton.mp member
      have located := (closedBy_element opening .scanned first).locates rfl starts ends after
      have range := Span.inBytes_append (before ++ Markup.openingTag name area) body
        (closing ++ after)
      rw [List.length_append, utf8Length_append] at range
      rw [← range] at located
      simpa only [Capture.inBytes, Option.map_some, Markup.Segment.text, Slice.ofText,
        List.append_assoc] using located
    · rcases List.mem_cons.mp member with rfl | piece
      · apply locates_none
        rintro ⟨⟩
      · obtain ⟨slice, nested, rfl⟩ := List.mem_map.mp piece
        apply locates_none
        rw [Markup.origin_of_mem_nested nested]
        rintro ⟨⟩
  | _ => cases member

/-- The ranges that come with the slices of a window are true of the document. -/
theorem locates_window {options : ScanOptions} {front window back : Text}
    {capture : Markup.Capture}
    (member : capture ∈ Markup.captures front.length (Markup.segments options window)) :
    Locates (front ++ window ++ back) ⟨utf8Length front, utf8Length front + utf8Length window⟩
      capture.slice (Capture.inBytes (front ++ window ++ back) capture).body? := by
  obtain ⟨before, segment, after, whole, inside⟩ := Markup.exists_segment_of_mem_captures member
  have parts : window = before.flatMap Markup.Segment.text ++
      (segment.text ++ after.flatMap Markup.Segment.text) := by
    rw [← Markup.segments_text options window, whole, List.flatMap_append, List.flatMap_cons]
  rw [← List.length_append] at inside
  have located := locates_captures (Markup.fits_segments whole).2
    ⟨utf8Length front, utf8Length front + utf8Length window⟩
    (after.flatMap Markup.Segment.text ++ back) (utf8Length_mono (List.prefix_append ..)) ?_ inside
  · simpa only [parts, List.append_assoc] using located
  · rw [parts]
    simp only [utf8Length_append]
    omega

/-! ## Windows -/

section Window
variable {options : ScanOptions} {html : Text} {scanner : Scanner}

/-- A range between boundaries has a window with the rest of the document around it. -/
theorem exists_around {range : Markup.Span} {input window : Text}
    (cut : slice? range.start range.stop input = some window) :
    ∃ front back, input = front ++ window ++ back ∧
      range = ⟨utf8Length front, utf8Length front + utf8Length window⟩ := by
  obtain ⟨back, ⟨front, whole, start⟩, stop⟩ := slice?_eq_some_iff.mp cut
  refine ⟨front, back, by rw [whole, List.append_assoc], ?_⟩
  rw [← start, ← stop]

theorem scanRange_window (options : ScanOptions) (front window back : Text) :
    scanRange options (front ++ window ++ back)
        ⟨utf8Length front, utf8Length front + utf8Length window⟩ =
      some ((Markup.captures front.length (Markup.segments options window)).map
        (Capture.inBytes (front ++ window ++ back))) := by
  have scanned := scanRange_eq options (front ++ window ++ back)
    ⟨front.length, front.length + window.length⟩
  rwa [Span.inBytes_append, Markup.Span.of_append] at scanned

/-- A fresh scanner records the slices of the document. -/
theorem Scanner.exists_run_ofText (options : ScanOptions) (html : Text) :
    ∃ fresh, (ofText options html).run = some fresh ∧
      fresh.slices = Markup.slices options html := by
  have recorded := Scanner.run_eq (ofText options html)
  have whole := Offset.run_eq options html
  rw [Offset.run] at whole
  refine ⟨_, recorded.trans (congrArg (Option.map _) whole), ?_⟩
  simp only [Scanner.halt, Scanner.add, ofText, List.nil_append, List.map_map]
  rfl

/-- A scan of a range between boundaries succeeds for every scanner that scans of the document have
led to, and hands over the same as the scan of a scanner at the start. Every slice that was recorded
comes with the body that was recorded for it. The slices are those that a scanner records of a copy
of the window, and the ranges are true of the document. The captures that are read by characters
are the same, with their spans counted in bytes. -/
theorem scan_window (reached : Scanner.Reached options html scanner) {range : Markup.Span}
    {window : Text} (cut : slice? range.start range.stop (html.filter (· != '\n')) = some window) :
    ∃ found next read fresh,
      scanner.scan range = some (found, next) ∧
      (Scanner.ofText options html).scan range = some (found, next) ∧
      (scanner.turn range).run = some read ∧
      found.map Prod.fst = read.slices ∧ found.map Prod.snd = read.bodies ∧
      (Scanner.ofText options window).run = some fresh ∧
      found.map Prod.fst = fresh.slices ∧ fresh.slices = Markup.slices options window ∧
      (∀ pair ∈ found, Locates (html.filter (· != '\n')) range pair.1 pair.2) ∧
      ∀ (reader : Markup.IdleScanner) (span : Markup.Span), reader.scanner.options = options →
        reader.scanner.input = html.filter (· != '\n') →
        Span.inBytes (html.filter (· != '\n')) span = range →
        found = (reader.scan span).1.map fun capture =>
          (capture.slice, capture.body?.map (Span.inBytes (html.filter (· != '\n')))) := by
  obtain ⟨front, back, whole, rfl⟩ := exists_around cut
  have stripped : '\n' ∉ window := fun present => by
    have member : '\n' ∈ html.filter (· != '\n') := by simp [whole, present]
    simp at member
  have copied : window.filter (· != '\n') = window :=
    List.filter_eq_self.mpr (Text.all_bne_of_notMem stripped)
  have captured := scanRange_window options front window back
  rw [← whole] at captured
  obtain ⟨fresh, copyRun, copySlices⟩ := Scanner.exists_run_ofText options window
  have scanned := reached.idle.scan_eq ⟨utf8Length front, utf8Length front + utf8Length window⟩
  have anew := (Scanner.idle_ofText options html).scan_eq
    ⟨utf8Length front, utf8Length front + utf8Length window⟩
  have recorded := reached.idle.run_turn ⟨utf8Length front, utf8Length front + utf8Length window⟩
  rw [captured, Option.map_some] at scanned anew recorded
  refine ⟨_, _, _, fresh, scanned, anew, recorded, ?_, ?_, copyRun, ?_, copySlices, ?_, ?_⟩
  · simp [Function.comp_def]
  · simp [Function.comp_def]
  · rw [copySlices, Markup.slices_eq_map, copied, Markup.map_slice_captures_segments,
      ← Markup.map_slice_captures_segments front.length, List.map_map, List.map_map]
    rfl
  · intro pair member
    obtain ⟨located, inside, rfl⟩ := List.mem_map.mp member
    obtain ⟨capture, present, rfl⟩ := List.mem_map.mp inside
    rw [whole]
    exact locates_window present
  · intro reader span sameOptions sameInput sameRange
    have again := scanRange_eq options (html.filter (· != '\n')) span
    rw [sameRange, captured] at again
    rw [Markup.scan_eq, sameOptions, sameInput, Option.some.inj again, List.map_map]
    rfl

/-- The body of an element is read as a copy of it is, after the scan that has found it. -/
theorem scan_window_body :
    let html := "é<div>a<p>b\nc</p></div>".toList
    ∃ earlier scanner found next,
      (Scanner.ofText {} html).scan ⟨0, 23⟩ = some (earlier, scanner) ∧
      earlier.map Prod.snd = [some ⟨7, 17⟩] ∧
      slice? 7 17 (html.filter (· != '\n')) = some "a<p>bc</p>".toList ∧
      scanner.scan ⟨7, 17⟩ = some (found, next) ∧
      found.map Prod.fst = Markup.slices {} "a<p>bc</p>".toList := by
  intro html
  have scanned : (Scanner.ofText {} html).scan ⟨0, 23⟩ =
      some ([(⟨"<div>a<p>bc</p></div>".toList, "div".toList, .scanned⟩, some ⟨7, 17⟩)],
        Scanner.behind {} html ⟨0, 23⟩) := rfl
  have cut : slice? 7 17 (html.filter (· != '\n')) = some "a<p>bc</p>".toList := rfl
  obtain ⟨found, next, _, _, again, _, _, _, _, _, same, copy, _⟩ :=
    @scan_window _ _ _ (.scan .start scanned) ⟨7, 17⟩ _ cut
  exact ⟨_, _, found, next, scanned, rfl, cut, again, same.trans copy⟩

end Window

end TagQuery.Offset
