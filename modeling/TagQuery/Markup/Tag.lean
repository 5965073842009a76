import TagQuery.Markup.Category

/-!
# Tags in a text

What counts as an opener and as a closer of a name, and how a closer that balances an opener is
found. An opener is `<name` that no word character continues, so that `<a` does not open `<abbr`;
a closer is `</name>` without anything else in it. Both disregard ASCII case.

`balance` looks for the first closer at which as many closers as openers have been seen, the
opener in question included. `closeUnmatched` adds the closers that a text lacks.
-/

namespace TagQuery.Markup

/-- The closing tag of a name. -/
def closer (name : Text) : Text := '<' :: '/' :: (name ++ ['>'])

/-- Whether an opener of the name stands at the start of a text. -/
def startsOpener (name : Text) : Text → Bool
  | '<' :: rest =>
    match Text.stripIgnoringCase? name rest with
    | some (c :: _) => !Text.isWord c
    | some [] => true
    | none => false
  | _ => false

/-- Whether a closer of the name stands at the start of a text. -/
def startsCloser (name : Text) : Text → Bool
  | '<' :: '/' :: rest =>
    match Text.stripIgnoringCase? name rest with
    | some ('>' :: _) => true
    | _ => false
  | _ => false

/-- The number of openers of a name in a text. -/
def countOpeners (name : Text) : Text → Nat
  | [] => 0
  | c :: rest => (if startsOpener name (c :: rest) then 1 else 0) + countOpeners name rest

/-- The number of closers of a name in a text. -/
def countClosers (name : Text) : Text → Nat
  | [] => 0
  | c :: rest => (if startsCloser name (c :: rest) then 1 else 0) + countClosers name rest

/-- The text with one closer of the name added for each opener that has none. -/
def closeUnmatched (name text : Text) : Text :=
  text ++ (List.replicate (countOpeners name text - countClosers name text) (closer name)).flatten

/-- The text cut before the closer that balances an opener of the name in front of it. The number
says how many openers in between are still open. A closer contains no other tag, so the search
may go on inside it. -/
def balance (name : Text) (depth : Nat) : Text → Option (Text × Text)
  | [] => none
  | c :: rest =>
    if startsCloser name (c :: rest) then
      match depth with
      | 0 => some ([], c :: rest)
      | depth + 1 => (balance name depth rest).map fun (body, after) => (c :: body, after)
    else
      let deeper := if startsOpener name (c :: rest) then depth + 1 else depth
      (balance name deeper rest).map fun (body, after) => (c :: body, after)

theorem append_of_balance {name : Text} {depth : Nat} {text body after : Text}
    (found : balance name depth text = some (body, after)) : body ++ after = text := by
  induction text generalizing depth body with
  | nil => cases found
  | cons c rest ih =>
    unfold balance at found
    split at found
    · split at found
      · cases found; rfl
      · obtain ⟨⟨inner, tail⟩, cut, same⟩ := Option.map_eq_some_iff.mp found
        cases same
        exact congrArg (c :: ·) (ih cut)
    · obtain ⟨⟨inner, tail⟩, cut, same⟩ := Option.map_eq_some_iff.mp found
      cases same
      exact congrArg (c :: ·) (ih cut)

/-- The tag name that a text starts with after its first character. -/
def tagName (text : Text) : Text := (text.drop 1).takeWhile Text.isWord

/-- Line breaks are never elements. -/
def isLineBreak (name : Text) : Bool := Text.sameName "br".toList name

/-- Whether a tag closes itself, given what stands between its name and its `>`. The final slash
has to follow the name or white space: in `<a href=/x/>` it belongs to a value. -/
def closesItself (area : Text) : Bool :=
  match area.reverse with
  | ['/'] => true
  | '/' :: c :: _ => Text.isSpace c
  | _ => false

end TagQuery.Markup
