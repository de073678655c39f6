import JobLog.Broadcast.Memory
import JobLog.Config.Basic
import JobLog.Digest.Md5
import JobLog.Digest.Sha256
import JobLog.Json.Value
import JobLog.Text.Charset
import JobLog.Web.Url

/-!
# Announcements over HTTP

A service that viewers are connected to takes one signed request for each announcement. The
signature is a keyed digest of the method, the path and the query as they are put together; what is
sent is the address in its normal form. The secret is used for the signature and nothing else.
-/

namespace JobLog.Pusher

/-- A request as it leaves. -/
structure Request where
  address : Web.Url
  contentType : String
  body : String
  deriving DecidableEq, Repr

/-- The path and query that the server sees. -/
def Request.target (r : Request) : String :=
  r.address.target

/-- What the server answers. -/
structure Answer where
  status : Nat
  contentType : Option String
  body : List UInt8
  deriving DecidableEq, Repr

/-- A client of the service. -/
structure Client where
  endpoint : String
  appId : String
  key : String
  secret : String
  deriving DecidableEq, Repr

namespace Client

/-- The client of a configuration. -/
def ofConfig (c : PusherConfig) : Client :=
  ⟨Text.trimEnd '/' c.endpoint, c.appId, c.key, c.secret⟩

/-- A client with the configured credentials, none of which may be blank; the secret must be one that
can key the digest. -/
def build (c : PusherConfig) : Except BroadcastError Client :=
  if Text.allBlank c.key then .error (.missingCredential .key)
  else if Text.allBlank c.secret then .error (.missingCredential .secret)
  else if Text.allBlank c.appId then .error (.missingCredential .appId)
  else
    match Digest.Hmac.ofKey? (Text.encode c.secret) with
    | none => .error .invalidSecret
    | some _ => .ok (ofConfig c)

/-- The client without its secret. -/
def describe (c : Client) : String :=
  "PusherClient \x7b endpoint: " ++ Text.quoted c.endpoint ++ ", app_id: " ++
    Text.quoted c.appId ++ ", key: " ++ Text.quoted c.key ++ ", .. \x7d"

/-- The body of a request. -/
def body (a : Announcement) : String :=
  (Json.Value.object [("name", .text a.event), ("channels", .list [.text a.channel]),
    ("data", .text a.data)]).render

/-- Where the service takes announcements. -/
def path (c : Client) : String :=
  "/apps/" ++ c.appId ++ "/events"

/-- The query without its signature; `now` is in seconds. -/
def query (c : Client) (now : Int) (body : String) : String :=
  "auth_key=" ++ c.key ++ "&auth_timestamp=" ++ toString now ++ "&auth_version=1.0&body_md5=" ++
    Digest.hex (Digest.Md5.digest (Text.encode body))

/-- The signature of a path and a query. -/
def signature (c : Client) (path query : String) : String :=
  Digest.hex (Digest.hmac (Text.encode c.secret)
    (Text.encode ("POST\n" ++ path ++ "\n" ++ query)))

/-- The address of a request, as it is put together. -/
def address (c : Client) (now : Int) (body : String) : String :=
  let query := c.query now body
  c.endpoint ++ c.path ++ "?" ++ query ++ "&auth_signature=" ++ c.signature c.path query

end Client

/-- An address without user name and password, which are sent in another place if they are text. -/
def withoutUser (url : Web.Url) : Web.Url :=
  let readable (s : String) : Bool := (Text.decode? (Web.decodeBytes s.toList)).isSome
  if readable url.user && (url.user != "" || url.password.any readable) then
    { url with user := "", password := none }
  else url

/-- Whether a character may stand in the name of a server that a request is sent to. -/
def inServerName (c : Char) : Bool :=
  c.isAlphanum || c ∈ ['!', '$', '&', '\'', '(', ')', '*', '+', ',', '-', '.', ';', '=', '_', '~']

/-- The longest address that a request is sent to. -/
def longestAddress : Nat := 65534

/-- Whether a request can be sent to an address. -/
def isUsable (url : Web.Url) : Bool :=
  (url.scheme == "http" || url.scheme == "https") && url.text.utf8ByteSize ≤ longestAddress &&
    match url.host with
    | some (.name name) => name.toList.all inServerName
    | some _ => true
    | none => false

/-- The request for an announcement. -/
def Client.request (c : Client) (now : Int) (a : Announcement) : Except RequestError Request :=
  let body := Client.body a
  match Web.Url.parse (c.address now body) with
  | .error _ => .error (.unusableAddress none)
  | .ok url =>
    let shown := withoutUser url
    if url.hasHost && isUsable shown then .ok ⟨shown, "application/json", body⟩
    else .error (.unusableAddress (some shown.text))

/-- What an answer to a request means, or the reason why there was none. The answer is the one that
the HTTP client comes to in the end, after the redirects that it follows. -/
def Request.outcome (r : Request) : Except String Answer → Except BroadcastError Unit
  | .error reason => .error (.request (.unanswered r.address.text reason))
  | .ok answer =>
    if 200 ≤ answer.status ∧ answer.status < 300 then .ok ()
    else .error (.rejected answer.status (Text.ofBody answer.contentType answer.body))

/-- Announce over a network that answers requests. The network stands for the HTTP client with all that
lies behind it: it is handed the first request, and the further ones that redirects lead to are its
own. -/
def Client.publish (c : Client) (now : Int) (a : Announcement)
    (network : Request → Except String Answer) : Except BroadcastError Unit :=
  match c.request now a with
  | .error e => .error (.request e)
  | .ok r => r.outcome (network r)

end JobLog.Pusher
