import Stencil.Data.Json.Reader
import Stencil.Http
import Stencil.Retry
import Stencil.Settings.Basic
import Stencil.Text.Percent

/-!
# Requests to a GitLab host

A client sends requests with an access token and reads the answers.  Refusals and broken connections are
failures of the host, told apart by the status; lists come page by page.
-/

namespace Stencil.Gitlab

open Data (Value Number)
open Http (Method Request Response Transport)

/-- Why a call fails. -/
inductive Fault
  /-- The host refuses a request, with a status, or is not reached. -/
  | refused (message : String) (status : Option Int)
  /-- An answer is not data. -/
  | unreadable (text : List Char) (fault : Data.Json.Fault)
  /-- A field is missing. -/
  | missing (name : String)
  /-- A value is asked for a field that it must have, and is no mapping. -/
  | noItems (v : Value)
  /-- A value is asked for a field that it may have, and is no mapping. -/
  | noFields (v : Value)
  /-- A value cannot be the name of a project. -/
  | noName (v : Value)
  /-- A list has more pages than are read. -/
  | endless
  /-- A wait is too long to be measured. -/
  | immeasurable
  /-- Something outside fails; an interruption is a wish to stop at once. -/
  | foreign (kind message : String) (interruption : Bool)

namespace Fault

/-- The wording of a failure. -/
def message : Fault → String
  | refused message none => message
  | refused message (some status) => message ++ " (HTTP " ++ Data.intText status ++ ")"
  | unreadable text fault => fault.message text
  | missing name => Text.quotedString name
  | noItems (.text _) => "string indices must be integers, not 'str'"
  | noItems (.list _) => "list indices must be integers or slices, not str"
  | noItems v => Text.quotedString v.kindName ++ " object is not subscriptable"
  | noFields v => Text.quotedString v.kindName ++ " object has no attribute 'get'"
  | noName v => "unhashable type: " ++ Text.quotedString v.kindName
  | endless => "the list does not end"
  | immeasurable => "int too large to convert to float"
  | foreign _ message _ => message

/-- Whether a failure is a wish to stop at once. -/
def interrupts : Fault → Bool
  | foreign _ _ interruption => interruption
  | _ => false

/-- Whether a failure is one of the host. -/
def isRefusal : Fault → Bool
  | refused _ _ => true
  | _ => false

/-- The status of a refusal. -/
def status? : Fault → Option Int
  | refused _ status => status
  | _ => none

/-- The least status that means a failure of the host itself. -/
def leastOwnFailure : Int := 500

/-- Whether a failure may pass: requests that the host rejects stay rejected. -/
def mayPass : Fault → Bool
  | refused _ (some status) => leastOwnFailure ≤ status
  | _ => true

end Fault

/-- How downloads are tried again. -/
def downloadPolicy : RetryPolicy Fault where
  isCandidate := Fault.isRefusal
  mayPass := Fault.mayPass
  describe := Fault.message
  immeasurable := .immeasurable

/-- What a client went through so far. -/
structure Session (σ : Type) where
  /-- The state of the network. -/
  network : σ
  /-- The requests sent. -/
  requests : List Request := []
  /-- The seconds waited before further attempts. -/
  waits : List Number := []
  /-- The records made. -/
  log : List Log.Entry := []

/-- What is done in a session and may fail. -/
abbrev Exchange (σ : Type) := ExceptT Fault (StateM (Session σ))

/-- What talks to a host. -/
structure Client (σ : Type) where
  /-- The access token. -/
  token : String
  /-- The address that all paths stand behind. -/
  address : String
  /-- The seconds after which a request is given up. -/
  timeout : Number := .binary (.ofInt 30)
  /-- How downloads are tried again. -/
  download : RetryPolicy Fault := downloadPolicy
  /-- The way of getting responses. -/
  transport : Transport σ Fault
  /-- The most pages that are read of one list. -/
  mostPages : Nat := 4294967296

namespace Client

variable {σ α : Type}

/-- The address below which a host is called. -/
def addressOf (base : Option String) : String :=
  let base := match base with
    | some text => if text = "" then publicHost else text
    | none => publicHost
  String.ofList (Text.trimEndWith (· = '/') base.toList) ++ "/api/v4"

/-- A client with a token, which is refused when it is missing or empty. -/
def ofToken (token base : Option String) (timeout : Number) (download : RetryPolicy Fault)
    (transport : Transport σ Fault) : Except Fault (Client σ) :=
  match token with
  | some token =>
    if token = "" then .error (.refused "empty gitlab token provided" none)
    else .ok { token, address := addressOf base, timeout, download, transport }
  | none => .error (.refused "empty gitlab token provided" none)

/-- A client as the settings ask for it. -/
def ofSettings (settings : HostSettings) (download : RetryPolicy Fault) (transport : Transport σ Fault) :
    Except Fault (Client σ) :=
  ofToken settings.token (some settings.baseUrl) (.binary settings.timeout) download transport

/-- The headers of every request. -/
def headers (client : Client σ) : List (String × String) :=
  [("PRIVATE-TOKEN", client.token)]

/-- Makes a record. -/
def report (level : Log.Level) (message : String) : Exchange σ Unit :=
  modify fun session => { session with log := session.log ++ [⟨level, message⟩] }

/-- What a value says about a failure: its message, its error, or all of it. -/
def explanation (v : Value) : String :=
  let given (name : String) : Option Value := (v.get? name).filter (·.isGiven)
  (((given "message").or (given "error")).getD v).display

/-- What a response says about a failure. -/
def failureText (response : Response) : String :=
  match Data.Json.read response.text with
  | .ok v => explanation v
  | .error _ =>
    let text := String.ofList (Text.trim response.text)
    if text ≠ "" then text
    else
      match response.reason with
      | some reason => if reason = "" then "unknown error" else reason
      | none => "unknown error"

/-- The wording of a request that failed. -/
def failed (method : Method) (path reason : String) : String :=
  method.word ++ " " ++ path ++ " failed: " ++ reason

/-- Sends a request and takes its response, which has to be a success. -/
def send (client : Client σ) (method : Method) (path : String) (parameters : Option (List (String × Value)))
    (body : Option Value) : Exchange σ Response := do
  let session ← get
  let request : Request := ⟨method, client.address ++ path, client.timeout, parameters, body⟩
  let (outcome, network) := client.transport request session.network
  set { session with network, requests := session.requests ++ [request] }
  match outcome with
  | .error (.unreachable message) => throw (.refused (failed method path message) none)
  | .error (.failure fault) => throw fault
  | .ok response =>
    if response.isFailure then
      throw (.refused (failed method path (failureText response)) (some response.status))
    else return response

/-- Sends a request without data and without parameters. -/
def call (client : Client σ) (method : Method) (path : String) : Exchange σ Response :=
  client.send method path none none

/-- Sends data. -/
def submit (client : Client σ) (method : Method) (path : String) (body : List (String × Value)) :
    Exchange σ Unit := do
  let _ ← client.send method path none (some (.mapping (body.map fun field => (.text field.1, field.2))))

/-- The data in a response. -/
def readData (response : Response) : Exchange σ Value :=
  match Data.Json.read response.text with
  | .ok v => return v
  | .error fault => throw (.unreadable response.text fault)

/-- How many items a page has at most. -/
def pageSize : Int := 100

/-- The parameters of a request for one page of a list. -/
def pageParameters (parameters : List (String × Value)) (page : String) : List (String × Value) :=
  parameters ++ [("per_page", .int pageSize), ("page", .text page)]

/-- The items on a page; what is no list has none. -/
def pageItems : Value → List Value
  | .list items => items
  | _ => []

/-- The page that a response announces. -/
def nextPage? (response : Response) : Option String :=
  (response.header? "X-Next-Page").filter (· ≠ "")

/-- The items of a list from one page on, of at most `most` pages. -/
def listFrom (client : Client σ) (path : String) (parameters : List (String × Value)) :
    (most : Nat) → (page : String) → Exchange σ (List Value)
  | 0, _ => throw .endless
  | most + 1, page => do
    let response ← client.send .get path (some (pageParameters parameters page)) none
    let items := pageItems (← readData response)
    match nextPage? response with
    | none => return items
    | some next => return items ++ (← listFrom client path parameters most next)

/-- All items of a list. -/
def list (client : Client σ) (path : String) (parameters : List (String × Value)) : Exchange σ (List Value) :=
  client.listFrom path parameters client.mostPages "1"

/-- Does something of which a refusal is an outcome; every other failure stays one. -/
def orRefusal (part : Exchange σ α) : Exchange σ (Except Fault α) :=
  tryCatch (do return .ok (← part)) fun fault =>
    if fault.isRefusal then return .error fault else throw fault

/-- The field that a value must have. -/
def item (v : Value) (name : String) : Exchange σ Value :=
  match v with
  | .mapping entries =>
    match Value.find? name entries with
    | some item => return item
    | none => throw (.missing name)
  | v => throw (.noItems v)

/-- The field that a value may have. -/
def field (v : Value) (name : String) : Exchange σ (Option Value) :=
  match v with
  | .mapping entries => return Value.find? name entries
  | v => throw (.noFields v)

end Client

instance {σ : Type} : Patient (StateM (Session σ)) where
  report level message := modify fun session => { session with log := session.log ++ [⟨level, message⟩] }
  wait seconds := modify fun session => { session with waits := session.waits ++ [seconds] }

end Stencil.Gitlab
