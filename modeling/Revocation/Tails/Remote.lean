import Revocation.Record
import Revocation.Tails

/-!
Tails from a server, an entry a request. Entries never change once published, so what has been
fetched is kept.
-/
namespace Revocation.RemoteTails

/-- The entries at hand, by index. -/
abbrev Cache := List (Int × Int)

variable {σ : Type} (m : Modulus) (service : Http.Service) (server : Http.Server σ)

def failed (index : Int) : Http.Fault → Failure
  | .status code => .tails (.status index code)
  | .failure kind text =>
    if kind.isRequest then .tails (.network index text) else .transport text
  | .wait f => .wait f
  | .address f => .address f
  | .noServer url => .noServer url

/-- The entry that a body gives for the index. -/
def entryOf (index : Int) (body : Bytes) : Except Malformed Int := do
  let v ← match Json.parseBody body with
    | .ok v => pure v
    | .error f => throw (.unreadable f)
  let answered ← Record.member v "index"
  if (← Record.index answered) ≠ index then throw (.otherIndex (Json.display answered))
  m.decodeValue (← Record.member v "entry")

/-- What an answer says about the index. -/
def judge (index : Int) (r : Http.Response) : Except Failure Int :=
  if r.status = 404 then .error (.noTailsEntry (.unknownToServer index))
  else if r.isError then .error (.tails (.status index r.status))
  else Malformed.reported (fun c => .tails (.invalid index c)) (entryOf m index r.body)

/-- Asks the server, whatever is at hand. -/
def ask : TailsSource (Http.Traffic σ) := fun index => do
  let r ← EStateM.adaptExcept (failed index) (service.get server (toString index) none)
  Session.ofExcept (judge m index r)

def fetch : TailsSource (Cache × Http.Traffic σ) := fun index => do
  let (cache, _) ← get
  match List.lookup index cache with
  | some a => return a
  | none =>
    let a ← Session.inner (ask m service server index)
    modify fun (cache, traffic) => ((index, a) :: cache, traffic)
    return a

/-- Nothing is at hand any more. -/
def clear : Session (Cache × Http.Traffic σ) Unit := modify fun (_, traffic) => ([], traffic)

end Revocation.RemoteTails
