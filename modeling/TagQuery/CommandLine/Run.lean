import TagQuery.CommandLine.Files
import TagQuery.CommandLine.Options
import TagQuery.Diagnostics
import TagQuery.Document
import TagQuery.Query

/-!
# Carrying out a command line

What a command line prints and how it ends. Reading files and talking to servers are parameters.
The document is read before the selector is, so that of two faults the one of the document is
reported.
-/

namespace TagQuery.CommandLine

/-- What a program leaves behind. -/
structure Output where
  code : Nat
  stdout : Text
  stderr : Text
deriving DecidableEq

/-- An escape sequence of terminals. -/
def escape (sequence : Text) : Text := '\x1b' :: '[' :: sequence

/-- A text in cyan. -/
def cyan (text : Text) : Text := escape "36m".toList ++ text ++ escape "39m".toList

/-- A text in yellow. -/
def yellow (text : Text) : Text := escape "33m".toList ++ text ++ escape "39m".toList

/-- A dimmed text. -/
def dimmed (text : Text) : Text := escape "2m".toList ++ text ++ escape "0m".toList

/-- A text as a line. -/
def line (text : Text) : Text := text ++ ['\n']

/-- A text filled up with spaces to eight characters. -/
def column (text : Text) : Text := text ++ List.replicate (8 - text.length) ' '

/-- The end of a program on an error, which may have a cause. -/
def Output.failure (message : Text) (cause : Option Text := none) : Output :=
  let reason := match cause with
    | none => []
    | some cause => line [] ++ line "Caused by:".toList ++ line ("    ".toList ++ cause)
  ⟨1, [], line ("Error: ".toList ++ message) ++ reason⟩

/-- Why a document cannot be read. -/
inductive SourceFault where
  | file (path : Text) (fault : FileFault)
  | transport (error : TransportError)
deriving DecidableEq

/-- The end of a program whose document cannot be read. -/
def SourceFault.output : SourceFault → Output
  | .file path fault =>
    .failure ("Failed to read '".toList ++ path ++ ['\'']) (some fault.message)
  | .transport error => .failure error.message

/-- Whether a path is a URL. -/
def isUrl (path : Text) : Bool :=
  let lowered := Text.lower path
  Text.startsWith "http://".toList lowered || Text.startsWith "https://".toList lowered

/-- The warning for a document from a server that is not HTML. -/
def notHtmlWarning (path : Text) : Text :=
  line (yellow ("[trawl cli] ⚠ ".toList ++ path ++ " does not look like an HTML document".toList))

/-- Reads a document, with the warnings that this prints. -/
def Source.read {m : Type → Type} [Monad m] (readFile : Text → m (Except FileFault Bytes))
    (network : Transport.FetchSettings → Transport.Url → m Transport.Exchange)
    (settings : Transport.FetchSettings) : Source → m (Except SourceFault (Text × Text))
  | .inline html => return .ok (html, [])
  | .path location => do
    if isUrl location then
      match ← Transport.fetch network settings location with
      | .error error => return .error (.transport error)
      | .ok html => return .ok (html, if Document.isHtml html then [] else notHtmlWarning location)
    else
      match ← readFile location with
      | .error fault => return .error (.file location fault)
      | .ok bytes =>
        match Bytes.text? bytes with
        | some html => return .ok (html, [])
        | none => return .error (.file location .invalidText)

/-- The line for a slice. -/
def sliceLine (slice : Slice) : Text :=
  line (cyan (column slice.category.word) ++ ' ' :: (dimmed (column slice.origin.word) ++
    ' ' :: slice.text))

/-- The JSON value for a text that may be missing. -/
def optionJson : Option Text → Json
  | some text => .string text
  | none => .null

/-- What a task prints for a document: the results, and the summary that follows them. -/
def Task.results (task : Task) (json : Bool) (html : Text) : Except ContractError (Text × Text) :=
  match task with
  | .listSlices =>
    let slices := Markup.slices {} html
    if json then .ok (line (Json.array (slices.map Slice.toJson)).pretty, [])
    else .ok (slices.flatMap sliceLine, [])
  | .find selector key mode => do
    let elements ← query mode html selector
    let summary := line (dimmed ((Nat.repr elements.length).toList ++ " match(es) for ".toList ++
      selector ++ " (".toList ++ mode.word ++ [')']))
    match key, json with
    | some key, true =>
      return (line (Json.array ((project key elements).map optionJson)).pretty, [])
    | none, true => return (line (Json.array (elements.map Element.toJson)).pretty, [])
    | some key, false => return (((project key elements).filterMap id).flatMap line, summary)
    | none, false => return (elements.flatMap fun element => line element.innerText, summary)

/-- What a program leaves behind that does the task for a document. -/
def Invocation.finish (invocation : Invocation) (html warnings : Text) : Output :=
  match invocation.task.results invocation.json html with
  | .error error =>
    let failed := Output.failure error.message
    { failed with stderr := warnings ++ failed.stderr }
  | .ok (results, summary) => ⟨0, results, warnings ++ summary⟩

/-- What the program says of itself. -/
def versionLine : Text := line "trawl 0.1.0".toList

/-- The options in short. -/
def helpText : Text :=
  ["trawl: extract elements from HTML with a small selector language", "",
    "Usage: trawl [OPTIONS] <FILE|URL>", "",
    "      --html <HTML>            query this text",
    "  -s, --selector <SELECTOR>    selector to match",
    "  -a, --attr <NAME>            print this attribute",
    "      --deep                   look inside elements",
    "      --json                   print JSON",
    "      --tokens                 print slices",
    "      --timeout <SECS>         request timeout",
    "      --user-agent <UA>        User-Agent header",
    "  -h, --help                   print help",
    "  -V, --version                print version"].flatMap fun entry => line entry.toList

/-- Carries out a command line. -/
def run {m : Type → Type} [Monad m] (readFile : Text → m (Except FileFault Bytes))
    (network : Transport.FetchSettings → Transport.Url → m Transport.Exchange)
    (arguments : List Text) : m (Except UsageError Output) := do
  match parse arguments with
  | .error error => return .error error
  | .ok .version => return .ok ⟨0, versionLine, []⟩
  | .ok .help => return .ok ⟨0, helpText, []⟩
  | .ok (.run invocation) =>
    match ← invocation.source.read readFile network invocation.settings with
    | .error fault => return .ok fault.output
    | .ok (html, warnings) => return .ok (invocation.finish html warnings)

end TagQuery.CommandLine
