import TagQuery.Transport.Host

/-!
# URLs

Reading absolute URLs the way that browsers do, and writing them in their normal form. Blanks and
controls around a URL and line breaks and tabs inside it do not count. Well-known schemes have a
host and a path, may use backslashes for slashes, and leave out their default port.
-/

namespace TagQuery.Transport

/-- What kind of a scheme a URL has. -/
inductive SchemeKind where
  /-- A scheme with a host, such as `http`. -/
  | network
  /-- The scheme `file`, whose host may be missing. -/
  | file
  /-- Any other scheme. -/
  | other
deriving DecidableEq

namespace SchemeKind

/-- The kind of a scheme. -/
def ofScheme (scheme : Text) : SchemeKind :=
  if (["http", "https", "ws", "wss", "ftp"].map String.toList).any (· == scheme) then .network
  else if scheme = "file".toList then .file
  else .other

/-- Whether the scheme is well known. -/
def isSpecial (kind : SchemeKind) : Bool := kind != .other

/-- Whether a character separates the segments of a path. -/
def isSlash (kind : SchemeKind) (c : Char) : Bool := c == '/' || (c == '\\' && kind.isSpecial)

end SchemeKind

/-- The port that a scheme uses if a URL names none. -/
def defaultPort? (scheme : Text) : Option Nat :=
  if scheme = "http".toList ∨ scheme = "ws".toList then some 80
  else if scheme = "https".toList ∨ scheme = "wss".toList then some 443
  else if scheme = "ftp".toList then some 21
  else none

/-- Who asks for a URL, percent-encoded. -/
structure Credentials where
  user : Text
  password : Option Text
deriving DecidableEq

namespace Credentials

/-- Nobody in particular. -/
def none : Credentials := ⟨[], .none⟩

/-- Reads what stands in front of the `@`. An empty password is none. -/
def ofText (text : Text) : Credentials :=
  let password := (text.dropWhile (· != ':')).drop 1
  ⟨percentEncode credentialSet (text.takeWhile (· != ':')),
    if password.isEmpty then .none else some (percentEncode credentialSet password)⟩

/-- The written form of credentials, with an `@` after them if there are any. -/
def render (credentials : Credentials) : Text :=
  match credentials.password with
  | some password => credentials.user ++ ':' :: (password ++ ['@'])
  | .none => if credentials.user.isEmpty then [] else credentials.user ++ ['@']

/-- Whether the credentials are text: the user name is, and there is one, or the password is. -/
def areText (credentials : Credentials) : Bool :=
  let isText (encoded : Text) : Bool := (Bytes.text? (percentDecode encoded)).isSome
  isText credentials.user && (!credentials.user.isEmpty || credentials.password.any isText)

end Credentials

/-- A URL in its normal form. -/
structure Url where
  scheme : Text
  credentials : Credentials
  /-- The host, if the URL has a place for one. -/
  host : Option Host
  port : Option Nat
  /-- The path, percent-encoded and without dot segments. -/
  path : Text
  query : Option Text
  fragment : Option Text
deriving DecidableEq

namespace Url

/-- The written form of a URL. -/
def render (url : Url) : Text :=
  let authority := match url.host with
    | none => []
    | some host => '/' :: '/' :: (url.credentials.render ++ host.render ++ match url.port with
      | none => []
      | some port => ':' :: (Nat.repr port).toList)
  url.scheme ++ ':' :: (authority ++ url.path ++
    (url.query.elim [] ('?' :: ·)) ++ (url.fragment.elim [] ('#' :: ·)))

/-- A URL without what does not count: blanks and controls at both ends, tabs and line breaks. -/
def strip (source : Text) : Text :=
  let ignorable (c : Char) : Bool := c.toNat ≤ 0x20
  let trimmed := ((source.dropWhile ignorable).reverse.dropWhile ignorable).reverse
  trimmed.filter fun c => c != '\t' && c != '\n' && c != '\r'

/-- The scheme of a URL, in lower case, and what follows its colon. -/
def splitScheme? (source : Text) : Option (Text × Text) :=
  let isSchemeChar (c : Char) : Bool := c.isAlphanum || c == '+' || c == '-' || c == '.'
  match source.takeWhile isSchemeChar, source.dropWhile isSchemeChar with
  | first :: name, ':' :: rest =>
    if first.isAlpha then some (Text.lower (first :: name), rest) else none
  | _, _ => none

/-- A text before the first character that ends a part of a URL, and from there on. -/
def cutAt (ends : Char → Bool) (text : Text) : Text × Text :=
  (text.takeWhile (!ends ·), text.dropWhile (!ends ·))

/-- Whether a character ends a path. -/
def endsPath (c : Char) : Bool := c == '?' || c == '#'

/-- The query and the fragment, encoded, from a text that starts with either or is empty. -/
def queryAndFragment (special : Bool) (text : Text) : Option Text × Option Text :=
  let fragmentOf (rest : Text) : Option Text :=
    match rest with
    | '#' :: fragment => some (percentEncode fragmentSet fragment)
    | _ => none
  match text with
  | '?' :: rest =>
    let (query, after) := cutAt (· == '#') rest
    let set := if special then querySet else querySet.filter (· != '\'')
    (some (percentEncode set query), fragmentOf after)
  | rest => (none, fragmentOf rest)

/-- Whether a segment stands for the segment it is in. -/
def isSingleDot (segment : Text) : Bool :=
  let lowered := Text.lower segment
  lowered == ['.'] || lowered == "%2e".toList

/-- Whether a segment stands for the segment before. -/
def isDoubleDot (segment : Text) : Bool :=
  let lowered := Text.lower segment
  (["..", ".%2e", "%2e.", "%2e%2e"].map String.toList).any (· == lowered)

/-- Whether a segment names a drive. -/
def isDriveLetter (segment : Text) : Bool :=
  match segment with
  | [letter, mark] => letter.isAlpha && (mark == ':' || mark == '|')
  | _ => false

/-- The segments of a path without dot segments. `done` holds the segments before, the last one
first. In a file URL a drive is never left. -/
def resolveSegments (kind : SchemeKind) (done : List Text) : List Text → List Text
  | [] => done.reverse
  | segment :: rest =>
    let final := rest.isEmpty
    if isDoubleDot segment then
      let shorter := match done with
        | [drive] => if kind == .file && isDriveLetter drive then done else []
        | _ => done.drop 1
      resolveSegments kind (if final then [] :: shorter else shorter) rest
    else if isSingleDot segment then
      resolveSegments kind (if final then [] :: done else done) rest
    else if kind == .file && done.isEmpty && isDriveLetter segment then
      resolveSegments kind [[segment.headD 'c', ':']] rest
    else resolveSegments kind (percentEncode pathSet segment :: done) rest

/-- The segments of a path; what stands before its first slash is a segment of its own only if it
is not empty. -/
def pathSegments (kind : SchemeKind) (path : Text) : List Text :=
  let relative := match path with
    | c :: rest => if kind.isSlash c then rest else path
    | [] => []
  resolveSegments kind [] (Text.splitWhere kind.isSlash relative)

/-- The written form of a path of segments. -/
def renderSegments (segments : List Text) : Text := segments.flatMap ('/' :: ·)

/-- The URL of its scheme, its host and port, and the text from the path on, without credentials. A
path is empty only where the scheme is not well known. -/
def withPath (scheme : Text) (kind : SchemeKind) (host : Option Host) (port : Option Nat)
    (text : Text) : Url :=
  let (path, after) := cutAt endsPath text
  let (query, fragment) := queryAndFragment kind.isSpecial after
  let segments := pathSegments kind path
  let rendered := if path.isEmpty && !kind.isSpecial then [] else renderSegments segments
  -- A drive belongs to this machine: its host does not count.
  let onDrive := kind == .file && isDriveLetter (segments.headD [])
  ⟨scheme, .none, if onDrive then some .empty else host, port, rendered, query, fragment⟩

/-- The host and the port at the end of an authority. -/
def hostAndPort? (scheme : Text) (kind : SchemeKind) (authority : Text) :
    Option (Host × Option Nat) := do
  let hostText := hostPart false authority
  let after := authority.drop hostText.length
  let host ← if kind.isSpecial then Host.parse? hostText else Host.parseOpaque? hostText
  if hostText.isEmpty && !after.isEmpty then none
  else
    let digits := (after.drop 1).takeWhile Char.isDigit
    let unread := (after.drop 1).dropWhile Char.isDigit
    let port ← digitsValue? 10 digits
    if 0xffff < port || !(unread.isEmpty || unread.head? == some '\\') then none
    else
      let shown := if digits.isEmpty || defaultPort? scheme == some port then none else some port
      return (host, shown)
where
  /-- The text up to the first colon that is not in brackets. -/
  hostPart (bracketed : Bool) : Text → Text
    | [] => []
    | c :: rest =>
      if c = ':' ∧ ¬bracketed then []
      else c :: hostPart (c == '[' || (bracketed && c != ']')) rest

/-- Reads a URL after the slashes in front of its authority. -/
def parseAuthority? (scheme : Text) (kind : SchemeKind) (text : Text) : Option Url := do
  let (authority, after) := cutAt (fun c => kind.isSlash c || endsPath c) text
  let location := (authority.reverse.takeWhile (· != '@')).reverse
  let (host, port) ← hostAndPort? scheme kind location
  if host == .empty && location.length + 1 < authority.length then none
  else
    let url := withPath scheme kind (some host) port after
    return { url with
      credentials := .ofText (authority.take (authority.length - location.length)).dropLast }

/-- Reads a file URL after its scheme. -/
def parseFile? (text : Text) : Option Url := do
  let scheme := "file".toList
  match text with
  | first :: second :: rest =>
    if SchemeKind.file.isSlash first && SchemeKind.file.isSlash second then
      let (hostText, after) := cutAt (fun c => SchemeKind.file.isSlash c || endsPath c) rest
      if isDriveLetter hostText then return withPath scheme .file (some .empty) none rest
      else if hostText.isEmpty then return withPath scheme .file (some .empty) none after
      else
        let host ← Host.parse? hostText
        let shown := if host == .name "localhost".toList then .empty else host
        return withPath scheme .file (some shown) none after
    else return withPath scheme .file (some .empty) none text
  | _ => return withPath scheme .file (some .empty) none text

/-- Reads an absolute URL. -/
def parse? (source : Text) : Option Url := do
  let (scheme, rest) ← splitScheme? (strip source)
  match SchemeKind.ofScheme scheme with
  | .network => parseAuthority? scheme .network (rest.dropWhile SchemeKind.network.isSlash)
  | .file => parseFile? rest
  | .other =>
    match rest with
    | '/' :: '/' :: authority => parseAuthority? scheme .other authority
    | '/' :: _ => return withPath scheme .other none none rest
    | _ =>
      let (path, after) := cutAt endsPath rest
      let (query, fragment) := queryAndFragment false after
      return ⟨scheme, .none, none, none, percentEncode [] path, query, fragment⟩

end Url

/-- The host of a URL, or the text itself if it is no URL or its host is missing or empty. -/
def hostOf (source : Text) : Text :=
  match (Url.parse? source).bind Url.host with
  | some host => if host == .empty then source else host.render
  | none => source

end TagQuery.Transport
