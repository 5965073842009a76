import TagQuery.Text.Quoted

/-!
# Errors

There are two kinds of errors. Either a caller asks for something that cannot be done, such as a
selector that cannot be read, or a document cannot be fetched. Faulty markup is never an error.
-/

namespace TagQuery

/-- Why a request of a caller is refused. -/
inductive ContractError where
  /-- A run has no selectors. -/
  | noSelectors
  /-- A run has no links. -/
  | noLinks
  /-- A selector cannot be read, for the given reason. -/
  | badSelector (selector reason : Text)
  /-- A refusal in words of its own. -/
  | refused (message : Text)
deriving DecidableEq

/-- The wording of a refusal. -/
def ContractError.message : ContractError → Text
  | .noSelectors => "Selectors not provided".toList
  | .noLinks => "Links not provided".toList
  | .badSelector selector reason =>
    "Bad selector: ".toList ++ Text.quoted selector ++ " (".toList ++ reason ++ [')']
  | .refused message => message

/-- Why a document cannot be fetched. -/
inductive TransportError where
  /-- There is no connection to the host. -/
  | unreachable (host : Text)
  /-- The certificate of the server is not accepted. -/
  | tlsVerification (message : Text)
  /-- The time for the request ran out. -/
  | timeout (url : Text)
  /-- The server answers with a status other than success. -/
  | status (code : Nat)
  /-- The URL is neither `http` nor `https`. -/
  | unsupportedScheme (url : Text)
  /-- Everything else. -/
  | other (message : Text)
deriving DecidableEq

/-- The wording of a failure to fetch. -/
def TransportError.message : TransportError → Text
  | .unreachable host => host ++ " is not available, check your internet connection".toList
  | .tlsVerification message => message ++ ", check the domain name of the website".toList
  | .timeout url => "request to ".toList ++ url ++ " timed out".toList
  | .status code => "HTTP error: ".toList ++ (Nat.repr code).toList
  | .unsupportedScheme url => "unsupported URL scheme: ".toList ++ url
  | .other message => "Unknown error: ".toList ++ message

/-- An error of either kind. -/
inductive Error where
  | contract (error : ContractError)
  | transport (error : TransportError)
deriving DecidableEq

/-- The wording of an error. -/
def Error.message : Error → Text
  | .contract error => error.message
  | .transport error => error.message

/-- Whether a caller is to blame. -/
def Error.isContract : Error → Bool
  | .contract _ => true
  | .transport _ => false

end TagQuery
