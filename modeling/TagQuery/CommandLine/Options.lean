import TagQuery.Markup.Extraction
import TagQuery.Transport.Fetch

/-!
# Command line options

What the arguments of a command line ask for. An argument is an option with a long name, a group
of short ones, or the path of the document; after `--` every argument is a path. The value of an
option follows `=`, follows a short name at once, or is the next argument, which must not look
like an option. No option may be given twice.

Arguments are read from left to right, and a request for the version or for help is answered as
soon as it is met, whatever is missing from the line or wrong behind it.
-/

namespace TagQuery.CommandLine

/-- Why a command line is refused. -/
inductive UsageError where
  | unknownOption (argument : Text)
  | repeatedOption (argument : Text)
  | missingValue (argument : Text)
  | unexpectedValue (argument : Text)
  | unexpectedPath (path : Text)
  | invalidTimeout (value : Text)
  /-- There is both a path and a document. -/
  | twoSources
  /-- There is neither a path nor a document. -/
  | missingSource
  | missingSelector
deriving DecidableEq

/-- Where the document comes from. -/
inductive Source where
  /-- The document stands in the command line. -/
  | inline (html : Text)
  /-- A path or a URL. -/
  | path (path : Text)
deriving DecidableEq

/-- What to do with the document. -/
inductive Task where
  /-- List its slices. -/
  | listSlices
  /-- Find elements by a selector, and project them if there is a key. -/
  | find (selector : Text) (key : Option Text) (mode : ExtractMode)
deriving DecidableEq

/-- A command line that can be carried out. -/
structure Invocation where
  source : Source
  task : Task
  /-- Whether the results are written as JSON. -/
  json : Bool
  settings : Transport.FetchSettings
deriving DecidableEq

/-- What a command line asks for. -/
inductive Request where
  | version
  | help
  | run (invocation : Invocation)
deriving DecidableEq

/-- The options that take a value. -/
inductive ValueOption where
  | html
  | selector
  | attr
  | timeout
  | userAgent
deriving DecidableEq

/-- The options that take no value. -/
inductive Flag where
  | deep
  | json
  | tokens
deriving DecidableEq

/-- What the name of an option means. -/
inductive Meaning where
  | takesValue (option : ValueOption)
  | flag (flag : Flag)
  | version
  | help

/-- The long names of options. -/
def longNames : List (Text × Meaning) :=
  [("html".toList, .takesValue .html), ("selector".toList, .takesValue .selector),
    ("attr".toList, .takesValue .attr), ("timeout".toList, .takesValue .timeout),
    ("user-agent".toList, .takesValue .userAgent), ("deep".toList, .flag .deep),
    ("json".toList, .flag .json), ("tokens".toList, .flag .tokens), ("version".toList, .version),
    ("help".toList, .help)]

/-- The short names of options. -/
def shortNames : List (Char × Meaning) :=
  [('s', .takesValue .selector), ('a', .takesValue .attr), ('V', .version), ('h', .help)]

/-- What has been given so far. -/
structure Given where
  values : List (ValueOption × Text)
  flags : List Flag
  path : Option Text

namespace Given

/-- The value of an option. -/
def value? (given : Given) (option : ValueOption) : Option Text := given.values.lookup option

/-- The number that a text writes, if it has at most 64 bits. A plus sign may stand in front. -/
def unsigned? (text : Text) : Option Nat :=
  let digits := match text with
    | '+' :: rest => rest
    | _ => text
  if digits.isEmpty then none
  else
    match Transport.digitsValue? 10 digits with
    | some n => if n < 1 <<< 64 then some n else none
    | none => none

/-- Adds the value of an option. -/
def addValue (given : Given) (argument : Text) (option : ValueOption) (value : Text) :
    Except UsageError Given :=
  if (given.value? option).isSome then .error (.repeatedOption argument)
  else if option = .timeout ∧ (unsigned? value).isNone then .error (.invalidTimeout value)
  else .ok { given with values := given.values ++ [(option, value)] }

/-- Adds an option without a value. -/
def addFlag (given : Given) (argument : Text) (flag : Flag) : Except UsageError Given :=
  if flag ∈ given.flags then .error (.repeatedOption argument)
  else .ok { given with flags := given.flags ++ [flag] }

/-- Adds the path. -/
def addPath (given : Given) (path : Text) : Except UsageError Given :=
  if given.path.isSome then .error (.unexpectedPath path)
  else .ok { given with path := some path }

/-- How requests are made. -/
def settings (given : Given) : Transport.FetchSettings :=
  let usual : Transport.FetchSettings := {}
  { timeout := (((given.value? .timeout).bind unsigned?).map (· * 1000)).getD usual.timeout
    userAgent := (given.value? .userAgent).getD usual.userAgent }

/-- Where the document comes from. -/
def source (given : Given) : Except UsageError Source :=
  match given.value? .html, given.path with
  | some html, none => .ok (.inline html)
  | none, some path => .ok (.path path)
  | some _, some _ => .error .twoSources
  | none, none => .error .missingSource

/-- What to do with the document. Listing slices needs no selector and disregards one. -/
def task (given : Given) : Except UsageError Task :=
  if .tokens ∈ given.flags then .ok .listSlices
  else
    match given.value? .selector with
    | some selector =>
      .ok (.find selector (given.value? .attr) (if .deep ∈ given.flags then .deep else .shallow))
    | none => .error .missingSelector

/-- What is asked for in the end. -/
def request (given : Given) : Except UsageError Request := do
  return .run ⟨← given.source, ← given.task, decide (Flag.json ∈ given.flags), given.settings⟩

end Given

/-- What an argument looks like. -/
inductive Shape where
  /-- The two hyphens after which there are only paths. -/
  | separator
  /-- A long name, with the value behind its `=` if there is one. -/
  | long (name : Text) (value : Option Text)
  /-- Short names behind one hyphen. -/
  | short (names : Text)
  | plain

/-- The shape of an argument. A lone hyphen is plain. -/
def shapeOf (argument : Text) : Shape :=
  match argument with
  | ['-', '-'] => .separator
  | '-' :: '-' :: rest =>
    match rest.dropWhile (· != '=') with
    | _ :: value => .long (rest.takeWhile (· != '=')) (some value)
    | [] => .long rest none
  | ['-'] => .plain
  | '-' :: names => .short names
  | _ => .plain

/-- Whether an argument can be the value of the option in front of it. -/
def isPlain (argument : Text) : Bool :=
  match shapeOf argument with
  | .plain => true
  | .separator | .long .. | .short _ => false

/-- What an argument leads to. -/
inductive Step where
  /-- Reading goes on with the next argument. -/
  | next (given : Given)
  /-- The next argument has to be the value of an option. -/
  | awaiting (given : Given) (option : ValueOption)
  /-- The rest of the line does not matter. -/
  | answer (request : Request)

/-- Reads an argument with a long name. -/
def readLong (given : Given) (argument name : Text) (value : Option Text) :
    Except UsageError Step :=
  match longNames.lookup name, value with
  | none, _ => .error (.unknownOption argument)
  | some (.takesValue option), some value => .next <$> given.addValue argument option value
  | some (.takesValue option), none => .ok (.awaiting given option)
  | some _, some _ => .error (.unexpectedValue argument)
  | some (.flag flag), none => .next <$> given.addFlag argument flag
  | some .version, none => .ok (.answer .version)
  | some .help, none => .ok (.answer .help)

/-- Reads short names. What follows the name of an option with a value is its value, with or
without `=` in front. -/
def readShort (given : Given) (argument : Text) : Text → Except UsageError Step
  | [] => .ok (.next given)
  | c :: rest =>
    match shortNames.lookup c, rest with
    | none, _ => .error (.unknownOption argument)
    | some (.takesValue option), [] => .ok (.awaiting given option)
    | some (.takesValue option), '=' :: value => .next <$> given.addValue argument option value
    | some (.takesValue option), value => .next <$> given.addValue argument option value
    | some (.flag flag), rest => do readShort (← given.addFlag argument flag) argument rest
    | some .version, _ => .ok (.answer .version)
    | some .help, _ => .ok (.answer .help)

/-- Reads the arguments after the separator. -/
def readPaths (given : Given) (paths : List Text) : Except UsageError Request := do
  (← paths.foldlM Given.addPath given).request

/-- Reads the arguments that are left. -/
def readArguments (given : Given) : List Text → Except UsageError Request
  | [] => given.request
  | argument :: rest => do
    let step ← match shapeOf argument with
      | .separator => return ← readPaths given rest
      | .plain => .next <$> given.addPath argument
      | .long name value => readLong given argument name value
      | .short names => readShort given argument names
    match step, rest with
    | .next given, rest => readArguments given rest
    | .answer request, _ => return request
    | .awaiting _ _, [] => throw (.missingValue argument)
    | .awaiting given option, value :: rest =>
      if isPlain value then readArguments (← given.addValue argument option value) rest
      else throw (.missingValue argument)

/-- Reads a command line. -/
def parse (arguments : List Text) : Except UsageError Request :=
  readArguments ⟨[], [], none⟩ arguments

end TagQuery.CommandLine
