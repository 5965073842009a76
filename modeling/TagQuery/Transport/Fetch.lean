import TagQuery.Error
import TagQuery.Text.Blank
import TagQuery.Transport.Url

/-!
# Fetching documents

A document is fetched in one exchange with its server. The network carries the exchange out and
says how it ended; this module says which requests are made at all, and what the end of an
exchange means: a text, or a reason why there is none.

Failures of connections are told by their texts. If any of these mentions a certificate, the
failure counts as one of the certificate; the texts include the URL of the request.
-/

namespace TagQuery.Transport

/-- How requests are made. -/
structure FetchSettings where
  /-- The time for one exchange, in milliseconds. -/
  timeout : Nat := 30000
  /-- How the requests name their sender. -/
  userAgent : Text := ("Mozilla/5.0 (Macintosh; Intel Mac OS X 10_15_7) " ++
    "AppleWebKit/537.36 (KHTML, like Gecko) Chrome/120.0.0.0 Safari/537.36").toList
deriving DecidableEq

/-- How an exchange with a server ended. -/
inductive Exchange where
  /-- There was no connection, for the given reason. -/
  | refused (reason : Text)
  /-- The server ended the connection without an answer. -/
  | closed
  /-- The answer ended before its announced length. -/
  | truncated
  /-- The time ran out. -/
  | timedOut
  /-- The server answered. -/
  | answered (status : Nat) (body : Bytes)
deriving DecidableEq

/-- Why a machine that is connected to no network cannot reach a host. It has IPv4 addresses to
send from, but none of IPv6, and it knows the address of one name. -/
def offlineReason : Host → Text
  | .ipv4 _ | .ipv6 [0, 0, 0, 0, 0, 0xffff, _, _] => "Network is unreachable (os error 101)".toList
  | .ipv6 _ => "Cannot assign requested address (os error 99)".toList
  | .name name =>
    if name = "localhost".toList then "Network is unreachable (os error 101)".toList
    else "failed to lookup address information: ".toList ++
      if name.head? != some '-' && name.all isHostNameChar then
        "Temporary failure in name resolution".toList
      else "Name or service not known".toList
where
  /-- The characters of names that are looked up. -/
  isHostNameChar (c : Char) : Bool := c.isAlphanum || c == '-' || c == '_' || c == '.'

/-- The exchange of a machine that is connected to no network. -/
def Exchange.offline (address : Url) : Exchange :=
  .refused (offlineReason (address.host.getD .empty))

/-- Whether documents of the URL are fetched at all: only `http` and `https` are. Blanks in front
do not count. -/
def checkScheme (url : Text) : Except TransportError Unit :=
  let lowered := Text.lower (Text.trimStart url)
  if Text.startsWith "http://".toList lowered || Text.startsWith "https://".toList lowered then
    .ok ()
  else .error (.unsupportedScheme url)

/-- Whether a text can be the value of a header. -/
def isHeaderValue (value : Text) : Bool :=
  value.all fun c => c == '\t' || (0x20 ≤ c.toNat && c.toNat != 0x7f)

/-- The URL to ask for, if a request for the text can be made. Credentials that are text travel in
a header and leave the URL. -/
def requestUrl (settings : FetchSettings) (url : Text) : Except TransportError Url := do
  checkScheme url
  match Url.parse? url with
  | some address =>
    if !isHeaderValue settings.userAgent then .error (.other "builder error".toList)
    else if address.credentials.areText then .ok { address with credentials := .none }
    else .ok address
  | none => .error (.other "builder error".toList)

/-- Whether a request can name a URL, which may have at most 65534 characters. -/
def Url.isRequestable (address : Url) : Bool :=
  address.host.all Host.isRequestable && address.render.length ≤ 65534

/-- The failure of a request. The messages are all but the innermost; the last argument tells what
the failure is if no message mentions a certificate. -/
def requestFailure (messages : List Text) (innermost : Text) (otherwise : TransportError) :
    TransportError :=
  if (innermost :: messages).any fun message =>
      Text.contains "certificate".toList (Text.lower message) then
    .tlsVerification innermost
  else otherwise

/-- What the end of an exchange means. The URL is given as written and as it was asked for. -/
def Exchange.result (url : Text) (address : Url) : Exchange → Except TransportError Text
  | .refused reason =>
    .error (requestFailure [sending] reason (.unreachable (hostOf url)))
  | .closed =>
    .error (requestFailure [sending] "connection closed before message completed".toList
      (.other sending))
  | .truncated => .error (.other "error decoding response body".toList)
  | .timedOut => .error (.timeout url)
  | .answered status body =>
    if 200 ≤ status ∧ status < 300 then .ok (Bytes.textLossy body) else .error (.status status)
where
  /-- The message of a request that could not be sent. -/
  sending : Text := "error sending request for url (".toList ++ address.render ++ [')']

/-- The failure of a request for a URL that no request can name. -/
def unrequestable (address : Url) : TransportError :=
  let building := "builder error for url (".toList ++ address.render ++ [')']
  requestFailure [building] "Parsed Url is not a valid Uri".toList (.other building)

/-- Fetches a document over a network. When there is no time at all, it is over before anything
else is found out about the request. -/
def fetch {m : Type → Type} [Monad m] (network : FetchSettings → Url → m Exchange)
    (settings : FetchSettings) (url : Text) : m (Except TransportError Text) :=
  match requestUrl settings url with
  | .error error => pure (.error error)
  | .ok address =>
    if settings.timeout = 0 then pure (.error (.timeout url))
    else if address.isRequestable then do return (← network settings address).result url address
    else pure (.error (unrequestable address))

end TagQuery.Transport
