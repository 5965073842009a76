import TagQuery.Markup.Capture
import TagQuery.Proofs.Markup.Tiling
import TagQuery.Proofs.Offset.Slice

/-!
# Scanning at byte offsets

A document is scanned up to a limit, tag by tag. The scan goes from one `<` to the next at which it
may resume, and everything it captures is cut out of the whole document between two of the
positions that it has found. It is given as many steps as the limit allows `<`, and one more to find
none; there is no result if they do not suffice, so what is said of the result says that they do.

`scanTag_eq` says what is done at one `<`: all cuts and differences exist, and what is captured and
where the scan resumes are what `Markup.cutMarkup` says, with spans counted in bytes
(`Span.inBytes`). `runFrom_eq` follows by induction on the segments of the window.
-/

namespace TagQuery.Offset

open Text (utf8 utf8Length)

/-! ## The scan -/

/-- The position of the first place where a pattern stands in a text. -/
def firstPlace? (pattern : Text) : Text → Option Nat
  | [] => if pattern.isEmpty then some 0 else none
  | c :: text =>
    if Text.startsWith pattern (c :: text) then some 0
    else (firstPlace? pattern text).map (c.utf8Size + ·)

/-- The position of the next place of a pattern, from a position on. -/
def findText (pattern : Text) (start : Nat) (text : Text) : Option Nat :=
  (from? start text).bind fun rest => (firstPlace? pattern rest).map (start + ·)

/-- The position behind the next `>`, or the limit. -/
def skipPastClose (input : Text) (limit start : Nat) : Option Nat := do
  let bytes ← bytesUpTo? limit (utf8 input)
  return (findByte '>'.toUInt8 start bytes).elim limit (· + 1)

/-- The position of the `>` of the closer that brings a name back to depth zero, found in a number
of steps. -/
def balancedClose (name : Text) (bytes : Bytes) : Nat → Nat → Nat → Option (Option Nat)
  | 0, _, _ => none
  | steps + 1, depth, position =>
    match findByte '<'.toUInt8 position bytes with
    | none => some none
    | some tag =>
      if closerAt name tag bytes then do
        let depth ← subtract? depth 1
        let closeEnd := tag + 2 + utf8Length name
        if depth = 0 then return some closeEnd
        else balancedClose name bytes steps depth (closeEnd + 1)
      else
        let depth := if openerAt name tag bytes then depth + 1 else depth
        balancedClose name bytes steps depth (tag + 1)

/-- The balanced closer of an element whose opening tag ends at a position. -/
def findBalancedClose (input : Text) (limit openEnd : Nat) (name : Text) : Option (Option Nat) := do
  let bytes ← bytesUpTo? limit (utf8 input)
  balancedClose name bytes (bytes.length + 1) 1 (openEnd + 1)

/-- Captures what stands from a position to another, both included. -/
def emit (input : Text) (start stop : Nat) (origin : Origin) (body? : Option Markup.Span) :
    Option Markup.Capture := do
  let text ← slice? start (stop + 1) input
  let name ← wordRun 1 text
  return ⟨⟨text, name, origin⟩, body?⟩

/-- Captures a nestable slice and its fragments. -/
def emitNestable (input : Text) (start stop : Nat) (body : Markup.Span) :
    Option (List Markup.Capture) := do
  let text ← slice? start (stop + 1) input
  let fragments ← splitNested text
  if fragments.isEmpty then do
    let whole ← emit input start stop .scanned (some body)
    return [whole]
  else do
    let whole ← emit input start stop .refined none
    return whole :: fragments.map fun slice => ⟨slice, none⟩

/-- Whether the category of a name ends its elements with the opening tag. -/
def endsByCategory (options : ScanOptions) (name : Text) : Bool :=
  match Category.ofName name with
  | .void => true
  | .wrapper => !options.captureWrapperBodies
  | .nestable | .generic => false

/-- Captures an element from its `<` to the `>` of its closer, and says where the scan resumes. -/
def scanBody (input : Text) (start openEnd stop : Nat) (name : Text) :
    Option (Nat × List Markup.Capture) := do
  let nameStart ← subtract? stop (utf8Length name)
  let bodyEnd ← subtract? nameStart 2
  let body := ⟨openEnd + 1, bodyEnd⟩
  if Category.ofName name = .nestable then do
    let found ← emitNestable input start stop body
    return (stop + 1, found)
  else do
    let whole ← emit input start stop .scanned (some body)
    return (stop + 1, [whole])

/-- Captures what starts with an opening tag, given its name and where its `>` stands, and says
where the scan resumes. -/
def scanElement (options : ScanOptions) (input : Text) (limit start openEnd : Nat) (name : Text) :
    Option (Nat × List Markup.Capture) := do
  let text ← upTo? limit input
  let closed ← selfClosing (start + 1 + utf8Length name) openEnd (utf8 text)
  if closed || endsByCategory options name then do
    let whole ← emit input start openEnd .scanned none
    return (openEnd + 1, [whole])
  else do
    let close? ← findBalancedClose input limit openEnd name
    match close? with
    | none => return (openEnd + 1, [])
    | some stop => scanBody input start openEnd stop name

/-- Handles the `<` at a position, and says where the scan resumes. -/
def scanTag (options : ScanOptions) (input : Text) (limit start : Nat) :
    Option (Nat × List Markup.Capture) := do
  let text ← upTo? limit input
  if (utf8 text)[start + 1]?.any (· == '!'.toUInt8) then do
    let rest ← from? start text
    if Text.startsWith ['<', '!', '-', '-'] rest then
      return ((findText ['-', '-', '>'] (start + 4) text).elim limit (· + 3), [])
    else return (← skipPastClose input limit start, [])
  else if (utf8 text)[start + 1]?.any fun b => b == '?'.toUInt8 || b == '/'.toUInt8 then
    return (← skipPastClose input limit start, [])
  else do
    let name ← wordRun (start + 1) text
    if name.isEmpty then return (start + 1, [])
    else if Markup.isLineBreak name then return (← skipPastClose input limit start, [])
    else
      match findByte '>'.toUInt8 start (utf8 text) with
      | none => return (limit, [])
      | some openEnd => scanElement options input limit start openEnd name

/-- Scans from a position to the limit, in a number of steps. -/
def runFrom (options : ScanOptions) (input : Text) (limit : Nat) :
    Nat → Nat → Option (List Markup.Capture)
  | 0, _ => none
  | steps + 1, position => do
    let bytes ← bytesUpTo? limit (utf8 input)
    match findByte '<'.toUInt8 position bytes with
    | none => return []
    | some start => do
      let (next, found) ← scanTag options input limit start
      let later ← runFrom options input limit steps next
      return found ++ later

/-- Scans a range of a document. -/
def scanRange (options : ScanOptions) (input : Text) (range : Markup.Span) :
    Option (List Markup.Capture) :=
  let limit := min range.stop (utf8Length input)
  runFrom options input limit (limit + 1) range.start

/-- Scans a whole document, whose line feeds are dropped first. -/
def run (options : ScanOptions) (html : Text) : Option (List Markup.Capture) :=
  let input := html.filter (· != '\n')
  runFrom options input (utf8Length input) (utf8Length input + 1) 0

/-! ## Balancing -/

section Balance
variable {name text rest : Text} {steps position : Nat}

theorem At.balancedClose_skip {run : Text} (place : At text position (run ++ rest))
    (absent : '<' ∉ run) (depth : Nat) :
    balancedClose name (utf8 text) steps depth position =
      balancedClose name (utf8 text) steps depth (position + utf8Length run) := by
  cases steps with
  | zero => rfl
  | succ steps => rw [balancedClose, balancedClose, place.findByte_skip rfl absent]

/-- A walk that resumes behind a closer goes on as one that resumes inside of it. -/
theorem At.balancedClose_closer (tag : Markup.IsTagName name)
    (place : At text position ('<' :: rest))
    (closes : Markup.startsCloser name ('<' :: rest) = true) (depth : Nat) :
    balancedClose name (utf8 text) steps depth (position + 2 + utf8Length name + 1) =
      balancedClose name (utf8 text) steps depth (position + 1) := by
  obtain ⟨spelling, after, same, whole⟩ := Markup.startsCloser_iff.mp closes
  have inside := place.tail rfl
  have parts : rest = '/' :: (spelling ++ ['>']) ++ after := (List.cons.inj whole).2
  rw [parts] at inside
  have skipped : balancedClose name (utf8 text) steps depth (position + 1) = _ :=
    inside.balancedClose_skip (Markup.notMem_tail_closer tag same) depth
  have length : position + 2 + utf8Length name + 1 =
      position + 1 + utf8Length ('/' :: (spelling ++ ['>'])) := by
    simp only [utf8Length_cons, utf8Length_append, utf8Length_nil, utf8Length_of_sameName same,
      utf8Size_slash, utf8Size_greater]
    omega
  rw [length, skipped]

/-- The byte of the `>` of the closer in front of which the search has cut. -/
def closeEnd (name : Text) (position : Nat) (cut : Text × Text) : Nat :=
  position + utf8Length cut.1 + 2 + utf8Length name

theorem map_closeEnd (c : Char) (cut? : Option (Text × Text)) :
    (cut?.map fun (body, after) => (c :: body, after)).map (closeEnd name position) =
      cut?.map (closeEnd name (position + c.utf8Size)) := by
  rw [Option.map_map]
  congr 1
  funext cut
  simp only [Function.comp_apply, closeEnd, utf8Length_cons, Nat.add_assoc]

/-- The walk from tag to tag ends at the closer before which the search by characters cuts. -/
theorem At.balancedClose_eq (tag : Markup.IsTagName name) (depth : Nat)
    (place : At text position rest) (enough : rest.length < steps) :
    balancedClose name (utf8 text) steps (depth + 1) position =
      some ((Markup.balance name depth rest).map (closeEnd name position)) := by
  induction rest generalizing position depth steps with
  | nil =>
    obtain ⟨steps, rfl⟩ := Nat.exists_eq_add_one.mpr (Nat.zero_lt_of_lt enough)
    rw [balancedClose, place.findByte_eq_none rfl List.not_mem_nil]
    rfl
  | cons c rest ih =>
    by_cases mark : c = '<'
    · subst mark
      obtain ⟨steps, rfl⟩ := Nat.exists_eq_add_one.mpr (Nat.zero_lt_of_lt enough)
      have later (deeper : Nat) := ih deeper (place.tail rfl) (Nat.lt_of_succ_lt_succ enough)
      rw [balancedClose, place.findByte_here rfl]
      dsimp only [Option.bind_eq_bind]
      rw [closerAt_eq tag.word place, openerAt_eq tag.word place]
      cases closes : Markup.startsCloser name ('<' :: rest) with
      | true =>
        rw [if_pos rfl, subtract?_add, Option.bind_some]
        cases depth with
        | zero =>
          rw [if_pos rfl, Markup.balance_of_closer_zero closes]
          rfl
        | succ depth =>
          rw [if_neg (Nat.succ_ne_zero depth), place.balancedClose_closer tag closes, later,
            Markup.balance_of_closer_succ closes, map_closeEnd]
          rfl
      | false =>
        rw [if_neg Bool.false_ne_true]
        cases opens : Markup.startsOpener name ('<' :: rest) with
        | true =>
          rw [if_pos rfl, later, Markup.balance_of_opener closes opens, map_closeEnd]
          rfl
        | false =>
          rw [if_neg Bool.false_ne_true, later, Markup.balance_of_neither closes opens,
            map_closeEnd]
          rfl
    · have run : At text position ([c] ++ rest) := place
      rw [run.balancedClose_skip (by simpa [eq_comm] using mark), utf8Length_singleton,
        ih depth place.next (Nat.lt_of_succ_lt enough), Markup.balance_of_neither (Markup.startsCloser_of_ne mark)
          (Markup.startsOpener_of_ne mark), map_closeEnd]

end Balance

/-! ## Spans in bytes -/

/-- A span of characters of a text as a range of its bytes. -/
def Span.inBytes (text : Text) (span : Markup.Span) : Markup.Span :=
  ⟨utf8Length (text.take span.start), utf8Length (text.take span.stop)⟩

/-- A capture whose body is given as a range of bytes. -/
def Capture.inBytes (text : Text) (capture : Markup.Capture) : Markup.Capture :=
  ⟨capture.slice, capture.body?.map (Span.inBytes text)⟩

theorem Span.inBytes_append (front body back : Text) :
    Span.inBytes (front ++ body ++ back) ⟨front.length, front.length + body.length⟩ =
      ⟨utf8Length front, utf8Length front + utf8Length body⟩ := by
  rw [Span.inBytes, ← List.length_append, List.take_left, List.append_assoc, List.take_left,
    utf8Length_append]

/-- The cut of the range of a span is what lies in the span. -/
theorem slice?_inBytes {span : Markup.Span} (ordered : span.start ≤ span.stop) (input : Text) :
    slice? (Span.inBytes input span).start (Span.inBytes input span).stop input =
      some (span.of input) := by
  have window := Markup.Span.take_append_of ordered input
  have place : At input (utf8Length (input.take span.start))
      (span.of input ++ input.drop span.stop) := by
    refine ⟨input.take span.start, ?_, rfl⟩
    rw [← List.append_assoc, window, List.take_append_drop]
  exact place.slice?_eq (by rw [Span.inBytes, ← window, utf8Length_append])

/-! ## Comments and asides -/

theorem map_firstPlace? (pattern text : Text) :
    (firstPlace? pattern text).map (· + utf8Length pattern) =
      (Text.splitAfterPattern? pattern text).map fun cut => utf8Length cut.1 := by
  induction text with
  | nil =>
    cases pattern with
    | nil => rfl
    | cons p pattern => rfl
  | cons c text ih =>
    rw [firstPlace?, Text.splitAfterPattern?, Text.startsWith]
    cases Text.strip? pattern (c :: text) with
    | some rest => simp
    | none =>
      rw [Option.isSome_none, if_neg Bool.false_ne_true, Option.map_map, Option.map_map]
      have later := congrArg (Option.map (c.utf8Size + ·)) ih
      rw [Option.map_map, Option.map_map] at later
      simpa only [Function.comp_def, Nat.add_assoc, utf8Length_cons] using later

section Window
variable {window rest : Text} {start : Nat} (hidden : Text)

theorem skipPastClose_eq (place : At window start ('<' :: rest)) :
    skipPastClose (window ++ hidden) (utf8Length window) start =
      some (start + utf8Length (Markup.cutAside rest).1.text) := by
  rw [skipPastClose, bytesUpTo?_append]
  dsimp only [Option.bind_eq_bind, Option.bind_some]
  by_cases closed : '>' ∈ rest
  · obtain ⟨run, after, rfl, absent⟩ := List.eq_append_cons_of_mem closed
    have whole : At window start (('<' :: run) ++ '>' :: after) := place
    rw [whole.findByte_eq_some rfl (by simpa using absent), Markup.cutAside,
      Text.splitAfter?_append after absent]
    simp [Markup.Segment.text, Nat.add_assoc]
  · rw [place.findByte_eq_none rfl (by simpa using closed), Markup.cutAside,
      Text.splitAfter?_eq_none_iff.mpr closed, place.length_eq]
    rfl

variable (options : ScanOptions)

theorem scanTag_of_comment {inside : Text}
    (place : At window start ('<' :: '!' :: '-' :: '-' :: inside)) :
    scanTag options (window ++ hidden) (utf8Length window) start =
      some (start + utf8Length (Markup.cutComment inside).1.text, []) := by
  have behind := ((((place.tail rfl).tail rfl).tail rfl).tail rfl)
  have found := map_firstPlace? ['-', '-', '>'] inside
  rw [scanTag, upTo?_append]
  dsimp only [Option.bind_eq_bind, Option.bind_some]
  rw [(place.tail rfl).any_getElem? (readsAs_beq rfl), List.head?_cons, Option.any_some,
    beq_self_eq_true, if_pos rfl, place.from?_eq, Option.bind_some, if_pos (by rfl), findText,
    behind.from?_eq, Option.bind_some]
  unfold Markup.cutComment
  split
  · rename_i front after cut
    rw [cut, Option.map_some] at found
    obtain ⟨offset, first, total⟩ := Option.map_eq_some_iff.mp found
    have size : utf8Length (Markup.Segment.comment ('<' :: '!' :: '-' :: '-' :: front)).text =
        4 + utf8Length front := utf8Length_append ['<', '!', '-', '-'] front
    rw [first, size, ← total]
    simp [show utf8Length ['-', '-', '>'] = 3 from rfl, Nat.add_assoc]
  · rename_i uncut
    rw [uncut, Option.map_none, Option.map_eq_none_iff] at found
    rw [found, place.length_eq]
    rfl

/-- What follows a `<` decides by its name unless its first character does. -/
theorem scanTag_of_plain (plain : ∀ c ∈ rest.head?, c ≠ '!' ∧ c ≠ '?' ∧ c ≠ '/')
    (place : At window start ('<' :: rest)) :
    scanTag options (window ++ hidden) (utf8Length window) start =
      if (rest.takeWhile Text.isWord).isEmpty then some (start + 1, [])
      else if Markup.isLineBreak (rest.takeWhile Text.isWord) then
        some (start + utf8Length (Markup.cutAside rest).1.text, [])
      else
        match findByte '>'.toUInt8 start (utf8 window) with
        | none => some (utf8Length window, [])
        | some openEnd =>
          scanElement options (window ++ hidden) (utf8Length window) start openEnd
            (rest.takeWhile Text.isWord) := by
  have inside := place.tail rfl
  have declares : rest.head?.any (· == '!') = false := by
    cases rest with
    | nil => rfl
    | cons c rest => simpa using (plain c rfl).1
  have closes : rest.head?.any (fun c => c == '?' || c == '/') = false := by
    cases rest with
    | nil => rfl
    | cons c rest => simpa using (plain c rfl).2
  rw [scanTag, upTo?_append]
  dsimp only [Option.bind_eq_bind, Option.bind_some]
  rw [inside.any_getElem? (readsAs_beq rfl), declares, if_neg Bool.false_ne_true,
    inside.any_getElem? ((readsAs_beq (c := '?') rfl).or (readsAs_beq (c := '/') rfl)), closes,
    if_neg Bool.false_ne_true, inside.wordRun_eq, Option.bind_some, skipPastClose_eq hidden place]
  rfl

omit hidden options in
theorem plain_of_name {name tail : Text} (tag : Markup.IsTagName name) :
    ∀ c ∈ (name ++ tail).head?, c ≠ '!' ∧ c ≠ '?' ∧ c ≠ '/' := by
  obtain ⟨d, name, rfl⟩ := List.exists_cons_of_ne_nil tag.nonempty
  have word := tag.word d List.mem_cons_self
  intro c first
  obtain rfl := Option.some.inj first
  refine ⟨?_, ?_, ?_⟩ <;>
  · rintro rfl
    exact absurd word (by decide)

theorem scanTag_of_mark {c : Char} {tail : Text} (marked : c = '?' ∨ c = '/')
    (place : At window start ('<' :: c :: tail)) :
    scanTag options (window ++ hidden) (utf8Length window) start =
      some (start + utf8Length (Markup.cutAside (c :: tail)).1.text, []) := by
  have inside := place.tail rfl
  have declares : (c == '!') = false := by
    rcases marked with rfl | rfl <;> rfl
  have closes : (c == '?' || c == '/') = true := by simpa using marked
  rw [scanTag, upTo?_append]
  dsimp only [Option.bind_eq_bind, Option.bind_some]
  rw [inside.any_getElem? (readsAs_beq rfl),
    inside.any_getElem? ((readsAs_beq (c := '?') rfl).or (readsAs_beq (c := '/') rfl)),
    List.head?_cons, Option.any_some, Option.any_some, declares, closes,
    if_neg Bool.false_ne_true, if_pos rfl, skipPastClose_eq hidden place]
  rfl

/-- A declaration, an instruction, a closer and a line break are skipped. -/
theorem scanTag_of_aside (aside : Markup.StartsAside rest) (place : At window start ('<' :: rest)) :
    scanTag options (window ++ hidden) (utf8Length window) start =
      some (start + utf8Length (Markup.cutAside rest).1.text, []) := by
  rcases aside with ⟨tail, rfl, single⟩ | ⟨tail, rfl⟩ | ⟨tail, rfl⟩ | ⟨name, tail, rfl, br, ends⟩
  · have other : Text.startsWith ['<', '!', '-', '-'] ('<' :: '!' :: tail) = false := by
      rw [← Bool.not_eq_true, Text.startsWith, Option.isSome_iff_exists]
      rintro ⟨after, found⟩
      have whole := Text.strip?_eq_some_iff.mp found
      exact single ⟨after, by simpa using whole.symm⟩
    rw [scanTag, upTo?_append]
    dsimp only [Option.bind_eq_bind, Option.bind_some]
    rw [(place.tail rfl).any_getElem? (readsAs_beq rfl), List.head?_cons, Option.any_some,
      beq_self_eq_true, if_pos rfl, place.from?_eq, Option.bind_some, other,
      if_neg Bool.false_ne_true, skipPastClose_eq hidden place]
    rfl
  · exact scanTag_of_mark hidden options (.inl rfl) place
  · exact scanTag_of_mark hidden options (.inr rfl) place
  · have tag := Markup.isTagName_of_isLineBreak br
    rw [scanTag_of_plain hidden options (plain_of_name tag) place, Text.takeWhile_run tag.word ends,
      br, if_pos rfl, if_neg (by simpa using tag.nonempty)]

theorem scanTag_of_bracket
    (plain : ∀ c ∈ rest.head?, Text.isWord c = false ∧ c ≠ '!' ∧ c ≠ '?' ∧ c ≠ '/')
    (place : At window start ('<' :: rest)) :
    scanTag options (window ++ hidden) (utf8Length window) start = some (start + 1, []) := by
  have empty : rest.takeWhile Text.isWord = [] := by
    cases rest with
    | nil => rfl
    | cons c rest => exact List.takeWhile_cons_of_neg (by simp [(plain c rfl).1])
  rw [scanTag_of_plain hidden options (fun c first => (plain c first).2) place, empty]
  rfl

end Window

/-! ## Elements -/

section Emit
variable {input tail back : Text} {start stop : Nat}

theorem At.emit_eq (place : At input start ('<' :: tail ++ back))
    (ends : stop + 1 = start + utf8Length ('<' :: tail)) (origin : Origin)
    (body? : Option Markup.Span) :
    emit input start stop origin body? = some ⟨.ofText ('<' :: tail) origin, body?⟩ := by
  have named := ((At.here ('<' :: tail)).tail rfl).wordRun_eq
  rw [Nat.zero_add] at named
  rw [emit, place.slice?_eq ends]
  dsimp only [Option.bind_eq_bind, Option.bind_some]
  rw [named]
  rfl

theorem At.emitNestable_eq (place : At input start ('<' :: tail ++ back))
    (ends : stop + 1 = start + utf8Length ('<' :: tail)) (body : Markup.Span) :
    emitNestable input start stop body =
      some (if (Markup.fragments ('<' :: tail)).isEmpty then
          [⟨.ofText ('<' :: tail) .scanned, some body⟩]
        else ⟨.ofText ('<' :: tail) .refined, none⟩ ::
          (Markup.fragments ('<' :: tail)).map fun slice => ⟨slice, none⟩) := by
  rw [emitNestable, place.slice?_eq ends]
  dsimp only [Option.bind_eq_bind, Option.bind_some]
  rw [splitNested_markup, Option.bind_some, place.emit_eq ends, place.emit_eq ends]
  split <;> rfl

end Emit

/-- The captures of an element that starts at a byte and has its body in a range of bytes. -/
def elementCaptures (text : Text) (body : Markup.Span) : List Markup.Capture :=
  if (Markup.nested text).isEmpty then [⟨.ofText text .scanned, some body⟩]
  else ⟨.ofText text .refined, none⟩ :: (Markup.nested text).map fun slice => ⟨slice, none⟩

theorem captures_element (front opening body closing back : Text) :
    ((Markup.Segment.element opening body closing).captures front.length).map
        (Capture.inBytes (front ++ opening ++ body ++ back)) =
      elementCaptures (opening ++ body ++ closing)
        ⟨utf8Length front + utf8Length opening,
          utf8Length front + utf8Length opening + utf8Length body⟩ := by
  have span := Span.inBytes_append (front ++ opening) body back
  rw [List.length_append, utf8Length_append] at span
  simp only [Markup.Segment.captures, elementCaptures]
  split
  · simp only [List.map_cons, List.map_nil, Capture.inBytes, Option.map_some, span]
  · simp only [List.map_cons, List.map_map, Capture.inBytes, Option.map_none, Function.comp_def]

section Element
variable {name area inside window : Text} {start : Nat} (hidden : Text) (options : ScanOptions)
  (place : At window start (Markup.openingTag name area ++ inside))

theorem utf8Length_openingTag (name area : Text) :
    utf8Length (Markup.openingTag name area) = 1 + utf8Length name + utf8Length area + 1 := by
  simp only [Markup.openingTag, utf8Length_cons, utf8Length_append, utf8Length_nil, utf8Size_less,
    utf8Size_greater]
  omega

include place

theorem selfClosing_opening :
    selfClosing (start + 1 + utf8Length name) (start + 1 + utf8Length name + utf8Length area)
      (utf8 window) = some (Markup.closesItself area) := by
  have whole :
      Markup.openingTag name area ++ inside = '<' :: (name ++ (area ++ '>' :: inside)) := by
    simp [Markup.openingTag]
  rw [whole] at place
  exact (place.tail rfl).advance.selfClosing_eq

theorem findBalancedClose_opening (tag : Markup.IsTagName name) {openEnd : Nat}
    (ends : openEnd + 1 = start + utf8Length (Markup.openingTag name area)) :
    findBalancedClose (window ++ hidden) (utf8Length window) openEnd name =
      some ((Markup.balance name 0 inside).map
        (closeEnd name (start + utf8Length (Markup.openingTag name area)))) := by
  have enough : inside.length < utf8Length window + 1 := by
    have read := length_le_utf8Length inside
    rw [place.advance.length_eq]
    omega
  rw [findBalancedClose, bytesUpTo?_append, ends]
  exact place.advance.balancedClose_eq tag 0 enough

/-- A slice of the window that starts with the opening tag. -/
theorem extend_opening {middle back : Text} (parts : inside = middle ++ back) :
    At (window ++ hidden) start
      ('<' :: (name ++ area ++ ['>'] ++ middle) ++ (back ++ hidden)) := by
  have longer := place.extend hidden
  rw [parts] at longer
  simpa [Markup.openingTag] using longer

/-- An element with the body that the search has cut is captured whole. -/
theorem scanBody_eq (opening : Markup.IsOpening name area) {body tail : Text} {openEnd : Nat}
    (last : openEnd + 1 = start + utf8Length (Markup.openingTag name area))
    (found : Markup.balance name 0 inside = some (body, tail)) :
    scanBody (window ++ hidden) start openEnd (closeEnd name (openEnd + 1) (body, tail)) name =
      let text := Markup.openingTag name area ++ body ++ tail.take (name.length + 3)
      some (start + utf8Length text,
        elementCaptures text ⟨openEnd + 1, openEnd + 1 + utf8Length body⟩) := by
  obtain ⟨closing, after, rfl, parts, first⟩ :=
    (Markup.balance_eq_some_iff opening.toIsTagName).mp found
  have size : utf8Length closing = 2 + utf8Length name + 1 := by
    obtain ⟨spelling, same, rfl⟩ := first.balances.closes
    simp only [Markup.closer, utf8Length_cons, utf8Length_append, utf8Length_nil,
      utf8Length_of_sameName same, utf8Size_less, utf8Size_slash, utf8Size_greater]
    omega
  have closer : (closing ++ after).take (name.length + 3) = closing := by
    rw [← first.balances.length_closing, List.take_left]
  have text : Markup.openingTag name area ++ body ++ closing =
      '<' :: (name ++ area ++ ['>'] ++ (body ++ closing)) := by
    simp [Markup.openingTag]
  have named : Markup.tagName ('<' :: (name ++ area ++ ['>'] ++ (body ++ closing))) = name := by
    rw [← text, List.append_assoc, opening.tagName_openingTag]
  have whole := extend_opening hidden place (parts.trans (List.append_assoc ..).symm)
  have ends : closeEnd name (openEnd + 1) (body, closing ++ after) + 1 =
      start + utf8Length ('<' :: (name ++ area ++ ['>'] ++ (body ++ closing))) := by
    rw [← text, utf8Length_append, utf8Length_append, ← Nat.add_assoc, ← Nat.add_assoc, ← last,
      size]
    simp only [closeEnd]
    omega
  have emitted := whole.emitNestable_eq ends ⟨openEnd + 1, openEnd + 1 + utf8Length body⟩
  have single := whole.emit_eq ends .scanned (some ⟨openEnd + 1, openEnd + 1 + utf8Length body⟩)
  dsimp only
  rw [closer, text, elementCaptures, Markup.nested, named, ← ends, scanBody]
  dsimp only [Option.bind_eq_bind]
  rw [closeEnd, subtract?_add, Option.bind_some, subtract?_add, Option.bind_some]
  rw [closeEnd] at emitted single
  by_cases nestable : Category.ofName name = .nestable
  · rw [if_pos nestable, if_pos nestable, emitted]
    rfl
  · rw [if_neg nestable, if_neg nestable, single]
    rfl

/-- What an opening tag starts is captured as the cutting of the document has it. -/
theorem scanElement_eq (opening : Markup.IsOpening name area) :
    scanElement options (window ++ hidden) (utf8Length window) start
        (start + 1 + utf8Length name + utf8Length area) name =
      if Markup.endsAtOpening options name area then
        some (start + utf8Length (Markup.openingTag name area),
          [⟨.ofText (Markup.openingTag name area) .scanned, none⟩])
      else
        match Markup.balance name 0 inside with
        | none => some (start + utf8Length (Markup.openingTag name area), [])
        | some (body, tail) =>
          let bodyStart := start + utf8Length (Markup.openingTag name area)
          let text := Markup.openingTag name area ++ body ++ tail.take (name.length + 3)
          some (start + utf8Length text,
            elementCaptures text ⟨bodyStart, bodyStart + utf8Length body⟩) := by
  have length := utf8Length_openingTag name area
  have last : start + 1 + utf8Length name + utf8Length area + 1 =
      start + utf8Length (Markup.openingTag name area) := by omega
  have ends : Markup.endsAtOpening options name area =
      (Markup.closesItself area || endsByCategory options name) := by
    cases category : Category.ofName name <;>
      simp only [Markup.endsAtOpening, endsByCategory, category]
  rw [scanElement, upTo?_append, ends]
  dsimp only [Option.bind_eq_bind, Option.bind_some]
  rw [selfClosing_opening place, Option.bind_some]
  split
  · have parts : inside = [] ++ inside := rfl
    have whole := extend_opening hidden place parts
    rw [List.append_nil] at whole
    rw [whole.emit_eq last, last]
    rfl
  · rw [findBalancedClose_opening hidden place opening.toIsTagName last, Option.bind_some]
    cases found : Markup.balance name 0 inside with
    | none =>
      rw [last]
      rfl
    | some cut =>
      rw [Option.map_some, ← last]
      exact scanBody_eq hidden place opening last found

end Element

/-! ## One tag -/

section Tag
variable (options : ScanOptions) (front inside hidden : Text) {name area : Text}

/-- An opening tag with its `>` is scanned as it is cut. -/
theorem scanTag_of_opening (opening : Markup.IsOpening name area)
    (other : Markup.isLineBreak name = false) :
    let rest := name ++ area ++ ['>'] ++ inside
    let cut := Markup.cutMarkup options rest
    scanTag options (front ++ '<' :: rest ++ hidden) (utf8Length (front ++ '<' :: rest))
        (utf8Length front) =
      some (utf8Length front + utf8Length cut.1.text,
        (cut.1.captures front.length).map (Capture.inBytes (front ++ '<' :: rest ++ hidden))) := by
  have place : At (front ++ '<' :: (name ++ area ++ ['>'] ++ inside)) (utf8Length front)
      (Markup.openingTag name area ++ inside) := At.append front _
  have unnamed :
      '<' :: (name ++ area ++ ['>'] ++ inside) = ('<' :: (name ++ area)) ++ '>' :: inside := by
    simp
  have absent : '>' ∉ '<' :: (name ++ area) := by
    simpa [opening.plain] using Text.notMem_of_word opening.word (by decide)
  have first :=
    (At.append front (('<' :: (name ++ area)) ++ '>' :: inside)).findByte_eq_some rfl absent
  have openEnd : utf8Length front + utf8Length ('<' :: (name ++ area)) =
      utf8Length front + 1 + utf8Length name + utf8Length area := by
    rw [utf8Length_cons, utf8Length_append, utf8Size_less]
    omega
  have run : (name ++ area ++ ['>'] ++ inside).takeWhile Text.isWord = name := by
    rw [List.append_assoc]
    exact opening.takeWhile_word inside
  rw [← unnamed, openEnd] at first
  have plain : ∀ c ∈ (name ++ area ++ ['>'] ++ inside).head?, c ≠ '!' ∧ c ≠ '?' ∧ c ≠ '/' := by
    rw [List.append_assoc, List.append_assoc]
    exact plain_of_name opening.toIsTagName
  dsimp only
  rw [scanTag_of_plain hidden options plain (At.append front _), run, other,
    if_neg (by simpa using opening.nonempty), if_neg Bool.false_ne_true, first]
  dsimp only
  rw [scanElement_eq hidden options place opening, opening.cutMarkup_eq options other inside]
  split
  · rfl
  · cases found : Markup.balance name 0 inside with
    | none => rfl
    | some cut =>
      obtain ⟨body, tail⟩ := cut
      have whole : front ++ '<' :: (name ++ area ++ ['>'] ++ inside) ++ hidden =
          front ++ Markup.openingTag name area ++ body ++ (tail ++ hidden) := by
        simp [Markup.openingTag, ← Markup.append_of_balance found]
      rw [whole]
      dsimp only
      rw [captures_element]
      rfl

end Tag

/-- What is done at a `<`: the scan resumes behind the segment that is cut there, and captures what
that segment gives. -/
theorem scanTag_eq (options : ScanOptions) (front rest hidden : Text) :
    let cut := Markup.cutMarkup options rest
    scanTag options (front ++ '<' :: rest ++ hidden) (utf8Length (front ++ '<' :: rest))
        (utf8Length front) =
      some (utf8Length front + utf8Length cut.1.text,
        (cut.1.captures front.length).map (Capture.inBytes (front ++ '<' :: rest ++ hidden))) := by
  have place := At.append front ('<' :: rest)
  rcases Markup.markup_cases rest with
    ⟨inside, rfl⟩ | aside | plain | ⟨name, tail, rfl, tag, other, ends⟩
  · have cut : Markup.cutMarkup options ('!' :: '-' :: '-' :: inside) =
        Markup.cutComment inside := rfl
    dsimp only
    rw [scanTag_of_comment hidden options place, cut, Markup.captures_cutComment]
    rfl
  · dsimp only
    rw [scanTag_of_aside hidden options aside place,
      Markup.cutMarkup_of_startsAside options aside,
      Markup.captures_cutAside]
    rfl
  · dsimp only
    rw [scanTag_of_bracket hidden options plain place,
      Markup.cutMarkup_of_bracket options plain]
    rfl
  · by_cases closed : '>' ∈ tail
    · obtain ⟨area, inside, rfl, plain⟩ := List.eq_append_cons_of_mem closed
      have opening : Markup.IsOpening name area := by
        refine ⟨tag, ?_, plain⟩
        cases area with
        | nil => simp
        | cons c area => exact ends
      have scanned := scanTag_of_opening options front inside hidden opening other
      simpa using scanned
    · have absent : '>' ∉ name ++ tail := by
        rw [List.mem_append, not_or]
        exact ⟨Text.notMem_of_word tag.word (by decide), closed⟩
      dsimp only
      rw [scanTag_of_plain hidden options (plain_of_name tag) place,
        Text.takeWhile_run tag.word ends, other, if_neg (by simpa using tag.nonempty),
        if_neg Bool.false_ne_true, place.findByte_eq_none rfl (by simpa using absent),
        Markup.cutMarkup_of_name options tag ends, other, if_neg Bool.false_ne_true,
        Markup.cutElement_of_notMem options absent, utf8Length_append]
      rfl

/-! ## Runs -/

section Run
variable (options : ScanOptions) (hidden : Text)

theorem runFrom_skip {window run rest : Text} {steps position : Nat}
    (place : At window position (run ++ rest)) (absent : '<' ∉ run) :
    runFrom options (window ++ hidden) (utf8Length window) steps position =
      runFrom options (window ++ hidden) (utf8Length window) steps
        (position + utf8Length run) := by
  cases steps with
  | zero => rfl
  | succ steps =>
    rw [runFrom, runFrom, bytesUpTo?_append]
    dsimp only [Option.bind_eq_bind, Option.bind_some]
    rw [place.findByte_skip rfl absent]

/-- A run from a boundary of the window captures what the segments from there on give. -/
theorem runFrom_eq {steps : Nat} (front rest : Text) (enough : rest.length < steps) :
    runFrom options (front ++ rest ++ hidden) (utf8Length (front ++ rest)) steps
        (utf8Length front) =
      some ((Markup.captures front.length (Markup.segments options rest)).map
        (Capture.inBytes (front ++ rest ++ hidden))) := by
  fun_induction Markup.segments options rest generalizing front steps with
  | case1 =>
    obtain ⟨steps, rfl⟩ := Nat.exists_eq_add_one.mpr (Nat.zero_lt_of_lt enough)
    rw [runFrom, bytesUpTo?_append]
    dsimp only [Option.bind_eq_bind, Option.bind_some]
    rw [(At.append front []).findByte_eq_none rfl List.not_mem_nil]
    rfl
  | case2 rest ih =>
    obtain ⟨steps, rfl⟩ := Nat.exists_eq_add_one.mpr (Nat.zero_lt_of_lt enough)
    have cut := Markup.cutMarkup_text options rest
    have fewer := Nat.lt_of_le_of_lt (Markup.cutMarkup_length_le options rest)
      (Nat.lt_of_succ_lt_succ enough)
    have later := ih (front ++ (Markup.cutMarkup options rest).1.text) fewer
    rw [List.append_assoc front, cut] at later
    have found := (At.append front ('<' :: rest)).findByte_here rfl
    rw [runFrom, bytesUpTo?_append]
    dsimp only [Option.bind_eq_bind, Option.bind_some]
    rw [found]
    dsimp only
    rw [scanTag_eq, Option.bind_some]
    dsimp only
    rw [← utf8Length_append, later, Option.bind_some, Markup.captures, List.map_append,
      List.length_append]
    rfl
  | case3 c rest other ih =>
    have absent : '<' ∉ c :: rest.takeWhile (· != '<') := by
      rw [List.mem_cons, not_or]
      exact ⟨Ne.symm other, fun member => by simpa using List.mem_takeWhile_imp member⟩
    have split : c :: rest = (c :: rest.takeWhile (· != '<')) ++ rest.dropWhile (· != '<') := by
      rw [List.cons_append, List.takeWhile_append_dropWhile]
    have fewer := Nat.lt_of_le_of_lt (List.dropWhile_suffix (l := rest) (· != '<')).length_le
      (Nat.lt_of_succ_lt enough)
    have later := ih (front ++ c :: rest.takeWhile (· != '<')) fewer
    have place : At (front ++ c :: rest) (utf8Length front)
        ((c :: rest.takeWhile (· != '<')) ++ rest.dropWhile (· != '<')) :=
      ⟨front, congrArg (front ++ ·) split, rfl⟩
    rw [List.append_assoc front, ← split] at later
    rw [runFrom_skip options hidden place absent, ← utf8Length_append, later, Markup.captures,
      List.length_append]
    rfl

theorem runFrom_of_le {input : Text} {limit steps position : Nat} {bytes : Bytes}
    (window : bytesUpTo? limit (utf8 input) = some bytes) (ended : bytes.length ≤ position) :
    runFrom options input limit (steps + 1) position = some [] := by
  rw [runFrom, window]
  dsimp only [Option.bind_eq_bind, Option.bind_some]
  rw [findByte_of_length_le ended]
  rfl

/-- The range of a span is scanned as the span is. -/
theorem scanRange_eq (input : Text) (span : Markup.Span) :
    scanRange options input (Span.inBytes input span) =
      some ((Markup.captures span.start (Markup.segments options (span.of input))).map
        (Capture.inBytes input)) := by
  have limit : min (utf8Length (input.take span.stop)) (utf8Length input) =
      utf8Length (input.take span.stop) :=
    Nat.min_eq_left (utf8Length_mono (List.take_prefix _ _))
  rw [scanRange, Span.inBytes]
  dsimp only
  rw [limit]
  by_cases inhabited : span.of input = []
  · have window := bytesUpTo?_append (input.take span.stop) (input.drop span.stop)
    rw [List.take_append_drop] at window
    have short : (input.take span.stop).length ≤ span.start := List.drop_eq_nil_iff.mp inhabited
    have within : input.take span.stop <+: input.take span.start := by
      apply List.prefix_of_prefix_length_le (List.take_prefix _ _) (List.take_prefix _ _)
      rw [List.length_take] at short ⊢
      rw [List.length_take]
      omega
    rw [runFrom_of_le options window (by rw [length_utf8]; exact utf8Length_mono within),
      inhabited, Markup.segments]
    rfl
  · have long : span.start < (input.take span.stop).length :=
      Nat.not_le.mp (mt List.drop_eq_nil_iff.mpr inhabited)
    rw [List.length_take] at long
    have window : input.take span.start ++ span.of input = input.take span.stop :=
      Markup.Span.take_append_of (by omega) input
    have length : (input.take span.start).length = span.start := by
      rw [List.length_take, Nat.min_eq_left (by omega)]
    have enough : (span.of input).length < utf8Length (input.take span.stop) + 1 := by
      have read := length_le_utf8Length (span.of input)
      rw [← window, utf8Length_append]
      omega
    have scanned :=
      runFrom_eq options (input.drop span.stop) (input.take span.start) (span.of input) enough
    rwa [window, List.take_append_drop, length] at scanned

/-- A whole document is scanned as its characters are. -/
theorem run_eq (html : Text) :
    run options html =
      some ((Markup.Scanner.ofText options html).run.captured.map
        (Capture.inBytes (html.filter (· != '\n')))) := by
  have scanned := runFrom_eq options [] [] (html.filter (· != '\n'))
    (Nat.lt_succ_of_le (length_le_utf8Length _))
  rw [List.append_nil, List.nil_append] at scanned
  rw [Markup.Scanner.run, Markup.Scanner.ofText, Markup.Scanner.window]
  dsimp only
  rw [Markup.Span.of_whole, List.nil_append]
  exact scanned

end Run

end TagQuery.Offset
