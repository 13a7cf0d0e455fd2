import Revocation.Http.Address
import Revocation.Retry

/-!
Requests and answers. A server is any function from a request and its own state to an answer and
the state after it, so answers may differ from one request to the next; a client keeps a record of
what it has sent and how long it has waited. What a server may send besides the status and the body
is left out: it has no reason phrase of its own and no headers.
-/
namespace Revocation.Http

/-- The ways in which a request gets no answer. -/
inductive Kind
  | any | request | transport
  | timeout | connectTimeout | readTimeout | writeTimeout | poolTimeout
  | network | connect | read | write | close
  | protocol | localProtocol | remoteProtocol
  | proxy | unsupportedProtocol | decoding | tooManyRedirects
deriving DecidableEq

/-- Timeouts, failures of the network, and servers that break the protocol may be gone next time. -/
def Kind.isTransient : Kind → Bool
  | .timeout | .connectTimeout | .readTimeout | .writeTimeout | .poolTimeout => true
  | .network | .connect | .read | .write | .close => true
  | .remoteProtocol => true
  | _ => false

/-- Every kind but the most general one is the failure of some request. -/
def Kind.isRequest : Kind → Bool
  | .any => false
  | _ => true

structure Request where
  address : Address
  /-- The timeout in seconds, as the 64 bits of a double. -/
  timeout : Nat
  /-- Whether certificates are verified; left open where the client does not say. -/
  verify : Option Bool
deriving DecidableEq

def Request.url (r : Request) : String := r.address.text

/-- What comes back for a request. A response goes by the usual phrase for its status, and says of
no other address where to look. -/
inductive Answer
  | response (status : Nat) (body : Bytes)
  | failure (kind : Kind) (text : String)
deriving DecidableEq

abbrev Server (σ : Type) := Request → σ → Answer × σ

/-- A server's state and the clock, with what has been sent and slept so far, latest first. -/
structure Traffic (σ : Type) where
  server : σ
  clock : RetryPolicy.Clock
  requests : List Request
  waits : List Float

def Traffic.start {σ : Type} (clock : RetryPolicy.Clock) (server : σ) : Traffic σ :=
  ⟨server, clock, [], []⟩

def Traffic.slept {σ : Type} (wait : Float) (t : Traffic σ) : Traffic σ :=
  { t with waits := wait :: t.waits }

inductive Fault
  /-- The server could not serve the request. -/
  | status (code : Nat)
  | failure (kind : Kind) (text : String)
  | wait (fault : RetryPolicy.WaitFault)
  | address (fault : Address.Fault)
  /-- An answer came from an address that names no server. -/
  | noServer (url : String)
deriving DecidableEq

def Fault.isTransient : Fault → Bool
  | .status _ => true
  | .failure kind _ => kind.isTransient
  | .wait _ => false
  | .address _ => false
  | .noServer _ => false

structure Response where
  status : Nat
  body : Bytes
deriving DecidableEq

def Response.isError (r : Response) : Bool := 400 ≤ r.status && r.status < 600

variable {σ : Type}

/-- One request and what comes back, whatever its status. -/
def send (server : Server σ) (r : Request) : EStateM Fault (Traffic σ) Response := fun t =>
  let (answer, s) := server r t.server
  let t := { t with server := s, requests := r :: t.requests }
  match answer with
  | .response status body =>
    if r.address.isAbsolute then .ok ⟨status, body⟩ t else .error (.noServer r.url) t
  | .failure kind text => .error (.failure kind text) t

/-- One request, failing where the server says that it failed. -/
def attempt (server : Server σ) (r : Request) : EStateM Fault (Traffic σ) Response := do
  let response ← send server r
  if 500 ≤ response.status then throw (.status response.status)
  return response

/-- A request that is retried while failures are transient. -/
def get (server : Server σ) (policy : RetryPolicy) (r : Request) :
    EStateM Fault (Traffic σ) Response := fun t =>
  policy.call t.clock Fault.isTransient .wait Traffic.slept (attempt server r) t

/-- How a service is reached. -/
structure Service where
  baseUrl : String
  timeout : Nat
  verify : Bool
  policy : RetryPolicy

/-- The root without slashes at its end, then the path. -/
def Service.url (s : Service) (path : String) : String :=
  String.ofList (s.baseUrl.toList.reverse.dropWhile (· = '/')).reverse ++ "/" ++ path

/-- Asks for a path, with a query in place of the service's own. -/
def Service.get (s : Service) (server : Server σ) (path : String) (query : Option String) :
    EStateM Fault (Traffic σ) Response :=
  match Address.target (s.url path) query with
  | .ok a => Http.get server s.policy ⟨a, s.timeout, some s.verify⟩
  | .error f => throw (.address f)

/-- Answers by address: each request takes the next one of its list, and the last one stays. -/
abbrev Script := List (String × List Answer)

def Script.serve : Server Script := fun r script =>
  let url := r.url
  match List.lookup url script with
  | none => (.response 404 [], script)
  | some [] => (.response 404 [], script)
  | some [a] => (a, script)
  | some (a :: rest) => (a, script.map fun (u, as) => if u = url then (u, rest) else (u, as))

end Revocation.Http
