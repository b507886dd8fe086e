import FirmwareUpdate.Http.Chunk
import FirmwareUpdate.Http.Status
import FirmwareUpdate.Http.Url
import FirmwareUpdate.Settings

/-! The client of a device's HTTP interface, over a network that either reaches no host or reaches
one that meets each request as it is told. A client makes one request for every call, and those that
the answers lead to. -/

namespace FirmwareUpdate.Http

inductive Endpoint
  | info
  | upload
  | rollback
  | state
  deriving DecidableEq

namespace Endpoint

def path : Endpoint → String
  | .info => "/api/ota/info"
  | .upload => "/api/ota/upload"
  | .rollback => "/api/ota/rollback"
  | .state => "/api/system/state"

def method : Endpoint → String
  | .info | .state => "GET"
  | .upload | .rollback => "POST"

def cacheControl : Endpoint → Option String
  | .state => some "no-cache"
  | _ => none

end Endpoint

/-- An answer, perhaps cut off before its announced end. Its location, read against the URL that was
asked for, is where the host would have the request made instead. -/
structure Response where
  status : Nat
  location : Option Url
  body : List UInt8
  cut : Bool

inductive Reply
  | answer (delay : Nat) (r : Response)
  | dropped (delay : Nat)
  | silent

inductive Network
  | unreachable
  /-- The reply to each request, by the kind of its call, the number of the call among those of its
  kind and its own number in the call, both counted from zero. -/
  | host (reply : Endpoint → Nat → Nat → Reply)

inductive Failure
  | builder (e : UrlError)
  | scheme (url : String)
  | unsendable (url : String)
  | unreachable (url : String)
  | dropped (url : String)
  | timedOut (url : String)
  | redirects (url : String)
  | cut (url : String)
  | status (url : String) (code : Nat)

namespace Failure

def sending (url : String) : String := s!"error sending request for url ({url})"

def causes : Failure → List String
  | .builder e => ["builder error", e.message]
  | .scheme url => [s!"builder error for url ({url})", "URL scheme is not allowed"]
  | .unsendable url => [s!"builder error for url ({url})", "Parsed Url is not a valid Uri"]
  | .unreachable url =>
      [sending url, "client error (Connect)", "tcp connect error",
        "Network is unreachable (os error 101)"]
  | .dropped url =>
      [sending url, "client error (SendRequest)", "connection closed before message completed"]
  | .timedOut url => [sending url, "operation timed out"]
  | .redirects url => [s!"error following redirect for url ({url})", "too many redirects"]
  | .cut url =>
      [s!"error decoding response body for url ({url})", "error reading a body from connection",
        "end of file before message length reached"]
  | .status url code =>
      let side := if isClientError code then "client" else "server"
      [s!"HTTP status {side} error ({statusText code}) for url ({url})"]

def summary (f : Failure) : String := f.causes.headD ""

end Failure

structure Answer where
  url : String
  status : Nat
  body : List UInt8
  cut : Bool

namespace Answer

def text (a : Answer) : Except Failure String :=
  if a.cut then .error (.cut a.url) else .ok (String.ofList (Text.Utf8.decodeLossy a.body))

def isError (a : Answer) : Bool :=
  isClientError a.status || isServerError a.status

end Answer

structure Part where
  headers : List String
  content : ByteArray

inductive Body
  | empty
  | form (part : Part)

structure Request where
  method : String
  url : String
  cacheControl : Option String
  body : Body

namespace Request

/-- The request to make at another place, if a status asks for that. A form is streamed, so it cannot
be sent again. -/
def moved? (r : Request) (status : Nat) (u : Url) : Option Request :=
  let asked : Request := ⟨"GET", u.text, r.cacheControl, .empty⟩
  let again : Request := { r with url := u.text }
  match status, r.body with
  | 301, _ | 302, _ => some (if r.method = "POST" then asked else again)
  | 303, _ => some asked
  | 307, .empty | 308, .empty => some again
  | _, _ => none

def led? (r : Request) (a : Response) : Option (Url × Request) :=
  match a.location with
  | none => none
  | some u => if u.isSendable then (r.moved? a.status u).map (u, ·) else none

end Request

structure Client where
  base : String
  probeTimeout : Nat

namespace Client

def isSlash (c : Char) : Bool := c == '/'

def new (url : String) (probeTimeout : Nat) : Client :=
  ⟨String.ofList (Text.trimEnd isSlash url.toList), probeTimeout⟩

def url (c : Client) (path : String) : String :=
  String.ofList (c.base.toList ++ '/' :: path.toList.dropWhile isSlash)

def target (c : Client) (e : Endpoint) : Except Failure Url :=
  match Url.parse (c.url e.path) with
  | .error err => .error (.builder err)
  | .ok u =>
      let u := u.anonymous
      if !u.isHttp then .error (.scheme u.text)
      else if !u.isSendable then .error (.unsendable u.text)
      else .ok u

def greatestRedirects : Nat := 10

def follow (url : String) : (left : Nat) → (Nat → Reply) → Request →
    Activity Request (Except Failure Answer)
  | left, reply, r => do
      .write r
      match reply 0 with
      | .silent => .hang
      | .dropped delay => do
          .pass delay
          return .error (.dropped url)
      | .answer delay a => do
          .pass delay
          match r.led? a, left with
          | none, _ => return .ok ⟨r.url, a.status, a.body, a.cut⟩
          | some _, 0 => return .error (.redirects r.url)
          | some (u, r), left + 1 =>
              if u.isHttp then follow url left (fun k => reply (k + 1)) r
              else return .error (.scheme u.text)

def request (e : Endpoint) (u : Url) (body : Body) : Request :=
  ⟨e.method, u.text, e.cacheControl, body⟩

def exchange (c : Client) (net : Network) (e : Endpoint) (n : Nat) (body : Body) :
    Run Request (Except Failure Answer) :=
  match c.target e with
  | .error f => ⟨[], some (0, .error f)⟩
  | .ok u =>
      match net with
      | .unreachable => ⟨[], some (0, .error (.unreachable u.text))⟩
      | .host reply =>
          (follow u.text greatestRedirects (reply e n) (request e u body)).run .never

def sendContext (c : Client) (e : Endpoint) : String :=
  s!"failed to send {e.method} request to {c.url e.path}"

def fetched (c : Client) (e : Endpoint) : Except Failure Answer → Except Workflow.Causes String
  | .error f => .error (c.sendContext e :: f.causes)
  | .ok a =>
      match a.text with
      | .error f => .error ("failed to read response body" :: f.causes)
      | .ok body =>
          if isSuccess a.status then .ok body
          else
            .error [s!"{e.method} {c.url e.path} failed with status {statusText a.status}" ++
              s!" and body: {body}"]

def fetch (c : Client) (net : Network) (e : Endpoint) (n : Nat) : Workflow.Answer String :=
  (c.exchange net e n .empty).ending.map fun (delay, r) => (delay, c.fetched e r)

def decoded {α : Type} (context : String) (decode : List Char → Except Json.Fault α) :
    Except Workflow.Causes String → Except Workflow.Causes α
  | .error causes => .error causes
  | .ok body =>
      (decode body.toList).mapError fun (f : Json.Fault) => [context, f.message body.toList]

def info (c : Client) (net : Network) (n : Nat) : Workflow.Answer DeviceInfo :=
  (c.fetch net .info n).map fun (delay, r) =>
    (delay, decoded "failed to parse ota info" DeviceInfo.decode r)

def rollback (c : Client) (net : Network) (n : Nat) : Workflow.Answer RollbackVerdict :=
  (c.fetch net .rollback n).map fun (delay, r) =>
    (delay, decoded "failed to parse rollback response" RollbackVerdict.decode r)

def timely (c : Client) (late : Except Failure Answer) :
    Option (Nat × Except Failure Answer) → Nat × Except Failure Answer
  | none => (c.probeTimeout, late)
  | some (delay, r) => if delay ≤ c.probeTimeout then (delay, r) else (c.probeTimeout, late)

def stated (c : Client) : Except Failure Answer → Except Workflow.Causes Unit
  | .error f => .error (c.sendContext .state :: f.causes)
  | .ok a =>
      if a.isError then
        .error ("device not ready: server returned error status" ::
          (Failure.status a.url a.status).causes)
      else .ok ()

def state (c : Client) (net : Network) (n : Nat) : Nat × Except Workflow.Causes Unit :=
  let late := (c.target .state).bind fun (u : Url) => .error (.timedOut u.text)
  let (delay, r) := c.timely late (c.exchange net .state n .empty).ending
  (delay, c.stated r)

def probe (c : Client) (net : Network) (n : Nat) : Reconnect.Probe :=
  let (delay, r) := c.state net n
  .answer delay r.toBool

def isReached (c : Client) (net : Network) (e : Endpoint) : Bool :=
  match net with
  | .unreachable => false
  | .host _ => (c.target e).toBool

def formName (name : String) : String :=
  String.ofList <| name.toList.flatMap fun c =>
    if c ∈ ['"', '\\', '\r', '\n'] then ['\\', c] else [c]

def firmwarePart (image : Upload.Image) : Part where
  headers :=
    ["Content-Disposition: form-data; name=\"firmware\"; filename=\"" ++ formName image.name ++
        "\"",
      "Content-Type: application/octet-stream"]
  content := image.data

def answered : Except Failure Answer → Upload.Ending
  | .error f => .broken f.summary
  | .ok a =>
      match a.text with
      | .error f => .broken f.summary
      | .ok body => .answered ⟨a.status, body⟩

def transfer (c : Client) (net : Network) (n : Nat) (image : Upload.Image) : Upload.Transfer :=
  let steps (last : Upload.Step) : List Upload.Step :=
    if c.isReached net .upload then (counts image.data).map .send ++ [last] else []
  match (c.exchange net .upload n (.form (firmwarePart image))).ending with
  | none => ⟨steps .stall, .aborted⟩
  | some (delay, r) => ⟨steps (.sleep delay), answered r⟩

def device (c : Client) (net : Network) : Workflow.Device where
  info := c.info net
  upload := c.transfer net
  rollback := c.rollback net
  probe := c.probe net

def address? : Workflow.Call → Option (Endpoint × Body)
  | .info => some (.info, .empty)
  | .upload image => some (.upload, .form (firmwarePart image))
  | .uploadDone => none
  | .rollback => some (.rollback, .empty)
  | .state => some (.state, .empty)

/-- The requests of a call as a host sees them while the call is waited for. Only a probe may be given
up before it has come to its end. -/
def requests (c : Client) (net : Network) (n : Nat) (e : Endpoint) (body : Body) (wait : Nat) :
    List Request :=
  let x := c.exchange net e n body
  match e with
  | .state =>
      (x.log.filter fun (r : Stamped Request) => r.instant ≤ min c.probeTimeout wait).map (·.entry)
  | _ => x.entries

def traffic (c : Client) (net : Network) (last : Nat) :
    (before : List Endpoint) → List (Stamped (Endpoint × Body)) → List (List Request)
  | _, [] => []
  | before, ⟨t, e, body⟩ :: calls =>
      c.requests net (before.count e) e body (last - t) :: traffic c net last (e :: before) calls

end Client

end Http

def Settings.client (s : Settings) : Http.Client :=
  .new s.url s.reconnect.timeout

end FirmwareUpdate
