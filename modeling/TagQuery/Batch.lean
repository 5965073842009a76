import TagQuery.Diagnostics
import TagQuery.Document
import TagQuery.Query

/-!
# Batch runs

A batch has named selectors and links. A run reads all selectors first, then fetches each link
once and gathers under each name what its selector finds in the documents, link after link. A
document that cannot be fetched or is no HTML document adds nothing and is noted.

Fetching is a parameter, in any monad, so that a run says which links it asks for and in which
order. A batch without selectors or links, or with a selector that cannot be read, is refused
before anything is fetched.
-/

namespace TagQuery

/-- Named selectors, and the links of the documents to look into. -/
structure Batch where
  selectors : NameMap Text
  links : List Text
  mode : ExtractMode

/-- What a run gathers. -/
structure BatchReport where
  /-- What each selector found. -/
  results : NameMap (List Element)
  /-- The documents that added nothing. -/
  diagnostics : Diagnostics

/-- How far a run has come. -/
structure BatchProgress where
  /-- Each selector with what it has found. -/
  found : NameMap (Selector × List Element)
  diagnostics : Diagnostics
  warnings : Warnings

/-- Why a document adds nothing. -/
inductive Skip where
  | unavailable (error : TransportError)
  | notHtml
deriving DecidableEq

/-- The wording of a reason to skip a document. -/
def Skip.message : Skip → Text
  | .unavailable error => error.message
  | .notHtml => "not an HTML document".toList

/-- The elements of a document that was asked for. -/
def readDocument (mode : ExtractMode) : Except TransportError Text → Except Skip (List Element)
  | .error error => .error (.unavailable error)
  | .ok text => if Document.isHtml text then .ok (Markup.extract mode text) else .error .notHtml

namespace BatchProgress

/-- The start of a run. -/
def start (selectors : NameMap Selector) : BatchProgress :=
  ⟨selectors.mapValues fun selector => (selector, []), ∅, .none⟩

/-- Adds what the answer to a link contributes. Only a failure to fetch is printed. -/
def add (progress : BatchProgress) (mode : ExtractMode) (link : Text)
    (answer : Except TransportError Text) : BatchProgress :=
  match readDocument mode answer with
  | .ok elements =>
    { progress with
      found := progress.found.mapValues fun (selector, before) =>
        (selector, before ++ selector.find elements) }
  | .error .notHtml =>
    { progress with diagnostics := progress.diagnostics.record link Skip.notHtml.message }
  | .error (.unavailable error) =>
    let (diagnostics, warnings) := progress.diagnostics.warn progress.warnings "scraper".toList link
      (Skip.unavailable error).message
    { progress with diagnostics, warnings }

/-- What a run has gathered. -/
def report (progress : BatchProgress) : BatchReport :=
  ⟨progress.found.mapValues (·.2), progress.diagnostics⟩

end BatchProgress

namespace Batch

variable {m : Type → Type} [Monad m]

/-- The selectors of a batch, or why it is refused. -/
def readSelectors (batch : Batch) : Except ContractError (NameMap Selector) :=
  if batch.selectors.isEmpty then .error .noSelectors
  else if batch.links.isEmpty then .error .noLinks
  else batch.selectors.traverse Selector.ofText

/-- Fetches links one after the other and adds what they contribute. -/
def visit (fetch : Text → m (Except TransportError Text)) (mode : ExtractMode) :
    List Text → BatchProgress → m BatchProgress
  | [], progress => pure progress
  | link :: rest, progress => do
    let answer ← fetch link
    visit fetch mode rest (progress.add mode link answer)

/-- Runs a batch: what it gathers, or why it is refused, and the warnings printed by then. The
warnings of earlier runs are cleared, unless the batch is refused. -/
def run (fetch : Text → m (Except TransportError Text)) (warnings : Warnings) (batch : Batch) :
    m (Except ContractError BatchReport × Warnings) :=
  match batch.readSelectors with
  | .error error => pure (.error error, warnings)
  | .ok selectors => do
    let progress ← visit fetch batch.mode batch.links.eraseDups (.start selectors)
    return (.ok progress.report, progress.warnings)

/-- What the selectors of a batch find. -/
def elements (fetch : Text → m (Except TransportError Text)) (warnings : Warnings)
    (batch : Batch) : m (Except ContractError (NameMap (List Element)) × Warnings) := do
  let (result, warnings) ← batch.run fetch warnings
  return (result.map BatchReport.results, warnings)

/-- The inner texts of what the selectors of a batch find. -/
def innerTexts (fetch : Text → m (Except TransportError Text)) (warnings : Warnings)
    (batch : Batch) : m (Except ContractError (NameMap (List Text)) × Warnings) := do
  let (result, warnings) ← batch.elements fetch warnings
  return (result.map (·.mapValues (·.map Element.innerText)), warnings)

/-- The projections by a key of what the selectors of a batch find. -/
def projections (key : Text) (fetch : Text → m (Except TransportError Text))
    (warnings : Warnings) (batch : Batch) :
    m (Except ContractError (NameMap (List (Option Text))) × Warnings) := do
  let (result, warnings) ← batch.elements fetch warnings
  return (result.map (·.mapValues (project key)), warnings)

end Batch

end TagQuery
