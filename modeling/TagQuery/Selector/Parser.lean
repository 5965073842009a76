import TagQuery.Selector.Basic
import TagQuery.Text.Quoted

/-!
# Reading selectors

A selector is written as links with `>` between them. A link starts with a tag name, with `*`, or
with its first qualifier; a qualifier is `#` or `.` with an identifier, or a condition in
brackets: `[name]`, `[name=value]`, or with one of the marks `^ $ * ~ |` in front of the `=`. A
value stands between quotation marks or reaches to the `]`. White space may stand anywhere but
inside a name, an identifier and the sign of a mode.

The links are told apart first: a `>` inside brackets belongs to a value. Then they are read from
the last to the first, and the first fault met in this order is the one that is reported.
-/

namespace TagQuery

/-- What can be wrong with the writing of a selector. -/
inductive SelectorFault where
  /-- There is nothing but blanks. -/
  | empty
  /-- A link of a chain is blank. -/
  | emptyLink
  /-- The link starts with a character that starts neither a tag nor a qualifier. -/
  | invalidTag (c : Char)
  /-- The character stands where a qualifier has to start. -/
  | unexpected (c : Char)
  /-- The mark of a qualifier has no identifier after it. -/
  | missingIdentifier (mark : Char)
  /-- A condition has no closing bracket. -/
  | unterminated
  /-- A condition does not name an attribute. -/
  | missingName
  /-- The character cannot stand at this place of a condition. -/
  | unexpectedInBrackets (c : Char)
  /-- The sign of a mode has no value after it. -/
  | missingValue (mode : MatchMode)
deriving DecidableEq

/-- The wording of a fault. -/
def SelectorFault.message : SelectorFault → Text
  | .empty => "empty selector".toList
  | .emptyLink => "empty link in `>` chain".toList
  | .invalidTag c => "invalid tag name starting at ".toList ++ Text.quotedChar c
  | .unexpected c => "unexpected character ".toList ++ Text.quotedChar c
  | .missingIdentifier mark => "`".toList ++ mark :: "` without identifier".toList
  | .unterminated => "unterminated `[`".toList
  | .missingName => "`[` without attribute name".toList
  | .unexpectedInBrackets c =>
    "unexpected character ".toList ++ Text.quotedChar c ++ " in `[...]`".toList
  | .missingValue mode => "`".toList ++ mode.sign ++ "` without value".toList

namespace Selector

/-- The characters of tag names and identifiers: ASCII letters and digits, the underscore, the
hyphen, and every character beyond ASCII that is not blank. -/
def isIdentChar (c : Char) : Bool :=
  c.isAlphanum || c == '_' || c == '-' || (0x80 ≤ c.toNat && !Text.isBlank c)

/-- The characters of attribute names in conditions. -/
def isNameChar (c : Char) : Bool :=
  c.isAlphanum || c == '_' || c == '-' || c == ':' || c == '.'

/-- Where a character stands with regard to brackets and quotation marks. -/
inductive Nesting where
  | outside
  | bracketed
  | quoted (mark : Char)
deriving DecidableEq

/-- Where the next character stands. Quotation marks count only inside brackets. -/
def Nesting.next (nesting : Nesting) (c : Char) : Nesting :=
  match nesting with
  | .quoted mark => if c = mark then .bracketed else .quoted mark
  | .bracketed =>
    if c = '"' ∨ c = '\'' then .quoted c else if c = ']' then .outside else .bracketed
  | .outside => if c = '[' then .bracketed else .outside

/-- The texts of the links: the first, and those that follow it. -/
def splitLinks (nesting : Nesting) : Text → Text × List Text
  | [] => ([], [])
  | c :: rest =>
    if c = '>' ∧ nesting = .outside then
      let later := splitLinks .outside rest
      ([], later.1 :: later.2)
    else
      let later := splitLinks (nesting.next c) rest
      (c :: later.1, later.2)

/-- What a mark, or a bracket, adds to a link. -/
inductive Qualifier where
  | identifier (name : Text)
  | className (name : Text)
  | bracket (condition : Condition)
deriving DecidableEq

/-- The link with one more qualifier. The last `id` and the last condition count. -/
def Qualifier.addTo (link : Link) : Qualifier → Link
  | .identifier name => { link with id := some name }
  | .className name => { link with classes := link.classes.insert name }
  | .bracket condition => { link with condition := some condition }

/-- Reads the identifier after a mark. -/
def readIdentifier (mark : Char) (text : Text) : Except SelectorFault (Text × Text) :=
  let start := Text.skipSpace text
  let name := start.takeWhile isIdentChar
  if name.isEmpty then .error (.missingIdentifier mark)
  else .ok (name, start.dropWhile isIdentChar)

/-- Reads the closing bracket of a condition. -/
def readClosing (condition : Condition) : Text → Except SelectorFault (Condition × Text)
  | ']' :: rest => .ok (condition, rest)
  | c :: _ => .error (.unexpectedInBrackets c)
  | [] => .error .unterminated

/-- Reads the value of a condition and its closing bracket. -/
def readExpected (name : Text) (mode : MatchMode) (text : Text) :
    Except SelectorFault (Condition × Text) :=
  match Text.skipSpace text with
  | '"' :: rest => readQuoted '"' rest
  | '\'' :: rest => readQuoted '\'' rest
  | start =>
    let value := Text.trim (start.takeWhile (· != ']'))
    if value.isEmpty then .error (.missingValue mode)
    else readClosing ⟨name, some value, mode⟩ (start.dropWhile (· != ']'))
where
  readQuoted (mark : Char) (rest : Text) : Except SelectorFault (Condition × Text) :=
    match rest.dropWhile (· != mark) with
    | [] => .error .unterminated
    | _ :: after =>
      readClosing ⟨name, some (rest.takeWhile (· != mark)), mode⟩ (Text.skipSpace after)

/-- Reads what follows the name of an attribute in a condition. -/
def readComparison (name text : Text) : Except SelectorFault (Condition × Text) :=
  match Text.skipSpace text with
  | [] => .error .unterminated
  | ']' :: rest => .ok (⟨name, none, .present⟩, rest)
  | '=' :: rest => readExpected name .equals rest
  | _ :: [] => .error .unterminated
  | c :: next :: rest =>
    match MatchMode.ofMark? c with
    | some mode =>
      if next = '=' then readExpected name mode rest else .error (.unexpectedInBrackets c)
    | none => .error (.unexpectedInBrackets c)

/-- Reads a condition after its opening bracket. -/
def readCondition (text : Text) : Except SelectorFault (Condition × Text) :=
  let start := Text.skipSpace text
  let name := start.takeWhile isNameChar
  if name.isEmpty then .error (if start.isEmpty then .unterminated else .missingName)
  else readComparison name (start.dropWhile isNameChar)

/-- Reads a qualifier after its first character. -/
def readQualifier (c : Char) (text : Text) : Except SelectorFault (Qualifier × Text) :=
  if c = '#' then (readIdentifier c text).map fun (name, rest) => (.identifier name, rest)
  else if c = '.' then (readIdentifier c text).map fun (name, rest) => (.className name, rest)
  else if c = '[' then
    (readCondition text).map fun (condition, rest) => (.bracket condition, rest)
  else .error (.unexpected c)

theorem readIdentifier_length_le {mark : Char} {text name rest : Text}
    (read : readIdentifier mark text = .ok (name, rest)) : rest.length ≤ text.length := by
  unfold readIdentifier at read
  dsimp only at read
  split at read
  · cases read
  · cases read
    exact Nat.le_trans (List.dropWhile_suffix _).length_le (Text.skipSpace_length_le text)

theorem readClosing_length_le {condition result : Condition} {text rest : Text}
    (read : readClosing condition text = .ok (result, rest)) : rest.length ≤ text.length := by
  unfold readClosing at read
  split at read
  · cases read; exact Nat.le_succ _
  · cases read
  · cases read

theorem readQuoted_length_le {name : Text} {mode : MatchMode} {mark : Char} {result : Condition}
    {text rest : Text} (read : readExpected.readQuoted name mode mark text = .ok (result, rest)) :
    rest.length ≤ text.length := by
  unfold readExpected.readQuoted at read
  split at read
  · cases read
  · rename_i c after found
    have shorter := (List.dropWhile_suffix (l := text) (· != mark)).length_le
    rw [found, List.length_cons] at shorter
    have skipped := Text.skipSpace_length_le after
    have closed := readClosing_length_le read
    omega

theorem readExpected_length_le {name : Text} {mode : MatchMode} {result : Condition}
    {text rest : Text} (read : readExpected name mode text = .ok (result, rest)) :
    rest.length ≤ text.length := by
  have skipped := Text.skipSpace_length_le text
  unfold readExpected at read
  split at read
  · rename_i after found
    have quoted := readQuoted_length_le read
    rw [found, List.length_cons] at skipped
    omega
  · rename_i after found
    have quoted := readQuoted_length_le read
    rw [found, List.length_cons] at skipped
    omega
  · dsimp only at read
    split at read
    · cases read
    · have shorter := (List.dropWhile_suffix (l := Text.skipSpace text) (· != ']')).length_le
      have closed := readClosing_length_le read
      omega

theorem readComparison_length_le {name : Text} {result : Condition} {text rest : Text}
    (read : readComparison name text = .ok (result, rest)) : rest.length ≤ text.length := by
  have skipped := Text.skipSpace_length_le text
  unfold readComparison at read
  split at read
  · cases read
  · rename_i after found
    cases read
    rw [found, List.length_cons] at skipped
    omega
  · rename_i after found
    have value := readExpected_length_le read
    rw [found, List.length_cons] at skipped
    omega
  · cases read
  · rename_i c next after _ _ _ found
    rw [found, List.length_cons, List.length_cons] at skipped
    split at read
    · split at read
      · have value := readExpected_length_le read
        omega
      · cases read
    · cases read

theorem readCondition_length_le {result : Condition} {text rest : Text}
    (read : readCondition text = .ok (result, rest)) : rest.length ≤ text.length := by
  unfold readCondition at read
  dsimp only at read
  split at read
  · cases read
  · have compared := readComparison_length_le read
    have shorter := (List.dropWhile_suffix (l := Text.skipSpace text) isNameChar).length_le
    have skipped := Text.skipSpace_length_le text
    omega

theorem readQualifier_length_le {c : Char} {qualifier : Qualifier} {text rest : Text}
    (read : readQualifier c text = .ok (qualifier, rest)) : rest.length ≤ text.length := by
  unfold readQualifier at read
  split at read
  · cases found : readIdentifier c text with
    | error fault => rw [found] at read; cases read
    | ok result => rw [found] at read; cases read; exact readIdentifier_length_le found
  · split at read
    · cases found : readIdentifier c text with
      | error fault => rw [found] at read; cases read
      | ok result => rw [found] at read; cases read; exact readIdentifier_length_le found
    · split at read
      · cases found : readCondition text with
        | error fault => rw [found] at read; cases read
        | ok result => rw [found] at read; cases read; exact readCondition_length_le found
      · cases read

/-- Reads the qualifiers of a link to its end. -/
def readQualifiers (text : Text) : Except SelectorFault (List Qualifier) :=
  match _start : Text.skipSpace text with
  | [] => .ok []
  | c :: rest =>
    match _read : readQualifier c rest with
    | .error fault => .error fault
    | .ok (qualifier, after) => (readQualifiers after).map (qualifier :: ·)
termination_by text.length
decreasing_by
  have skipped := Text.skipSpace_length_le text
  have shorter := readQualifier_length_le _read
  rw [_start, List.length_cons] at skipped
  omega

/-- The link of a tag with its qualifiers. -/
def linkOf (tag : Option Text) (qualifiers : List Qualifier) : Link :=
  qualifiers.foldl Qualifier.addTo { Link.any with tag }

/-- Reads the tag of a link. -/
def readTag (text : Text) : Except SelectorFault (Option Text × Text) :=
  match Text.skipSpace text with
  | [] => .ok (none, [])
  | '*' :: rest => .ok (none, rest)
  | c :: rest =>
    if c.isAlpha then
      .ok (some ((c :: rest).takeWhile isIdentChar), (c :: rest).dropWhile isIdentChar)
    else if c = '#' ∨ c = '.' ∨ c = '[' then .ok (none, c :: rest)
    else .error (.invalidTag c)

/-- Reads a link. -/
def readLink (text : Text) : Except SelectorFault Link := do
  let (tag, rest) ← readTag text
  let qualifiers ← readQualifiers rest
  return linkOf tag qualifiers

/-- Reads the links of a chain, the last one first. -/
def readLinks (first : Text) : List Text → Except SelectorFault Selector
  | [] => (readLink first).map .last
  | next :: rest => do
    let child ← readLinks next rest
    let link ← readLink first
    return .parent link child

/-- Reads a selector. -/
def parse (source : Text) : Except SelectorFault Selector :=
  if Text.allBlank source then .error .empty
  else
    let (first, rest) := splitLinks .outside source
    if (first :: rest).any Text.allBlank then .error .emptyLink else readLinks first rest

end Selector

end TagQuery
