import Revocation.Console.Panel
import Revocation.Failure
import Revocation.Http.Status

/-!
Where a command finds the credential to work on: a file, an address or the standard input; and how a
command ends.
-/
namespace Revocation.CommandLine

/-- What commands work in: the files, and the traffic with servers. -/
structure World (σ : Type) where
  files : FileStore
  traffic : Http.Traffic σ

inductive Mishap
  | noSuchFile (source : String)
  | notObject (shape : Json.Shape)
  | document (fault : Json.Fault)
  | status (code : Nat) (url : String)
  | transport (text : String)
  | markup (fault : Console.MarkupFault)
  | failure (cause : Failure)
deriving DecidableEq

abbrev Work (σ : Type) := EStateM Mishap (World σ)

/-- Exit status and what is printed. -/
structure Ending where
  status : Nat
  output : String
deriving DecidableEq

variable {σ : Type}

/-- A computation that meets no state. -/
def Work.ofExcept {α : Type} : Except Failure α → Work σ α
  | .ok a => pure a
  | .error e => throw (.failure e)

/-- Prints a marked-up line and ends. Without a form in which it can be shown the program breaks
off, and has printed nothing. -/
def report (status : Nat) (markup : String) : Ending :=
  match Console.printed markup with
  | .ok text => ⟨status, text⟩
  | .error _ => ⟨1, ""⟩

def Mishap.message : Mishap → String
  | .noSuchFile source => "File not found: " ++ source
  | .notObject shape => "Expected a JSON object, got " ++ shape.name
  | .document f => f.message
  | .status code url => Http.statusReport code url
  | .transport text => text
  | .markup f => f.message
  | .failure e => e.message

/-- The message with a word before it where the document cannot be read. -/
def Mishap.text : Mishap → String
  | .document (.unexpected c line column position) =>
    "Invalid JSON: " ++ (Json.Fault.unexpected c line column position).message
  | m => m.message

def ofDocument : Except Json.Fault Json → Except Mishap Json
  | .ok v => .ok v
  | .error f => .error (.document f)

def ofHttp (url : String) : Http.Fault → Mishap
  | .failure _ text => .transport text
  | .status code => .status code url
  | .wait f => .failure (.wait f)
  | .address f => .failure (.address f)
  | .noServer url => .failure (.noServer url)

/-- One request, without another attempt. -/
def download (server : Http.Server σ) (source : String) (timeout : Nat) : Work σ Json := do
  let request ← match Http.Address.target source none with
    | .ok a => pure ⟨a, timeout, none⟩
    | .error f => throw (ofHttp source (.address f))
  let w ← get
  match Http.send server request w.traffic with
  | .error f traffic => set { w with traffic }; throw (ofHttp request.url f)
  | .ok r traffic =>
    set { w with traffic }
    if Http.isSuccess r.status then MonadExcept.ofExcept (ofDocument (Json.parseBody r.body))
    else throw (.status r.status request.url)

def readSource (source : String) : Work σ Json := do
  let path := Path.ofString source
  let files := (← get).files
  match files.pathExists path with
  | .error f => throw (.failure (.storage f))
  | .ok false => throw (.noSuchFile source)
  | .ok true =>
    match files.read path with
    | .ok bytes => MonadExcept.ofExcept (ofDocument (Json.parseFile bytes))
    | .error f => throw (.failure (.storage f))

/-- The members of the credential. -/
def load (server : Http.Server σ) (input : Bytes) (source : String) (timeout : Nat) :
    Work σ Json.Members := do
  let document ←
    if source = "-" then MonadExcept.ofExcept (ofDocument (Json.parseFile input))
    else if source.startsWith "http://" || source.startsWith "https://" then
      download server source timeout
    else readSource source
  match document with
  | .object ms => return ms
  | v => throw (.notObject v.shape)

end Revocation.CommandLine
