import Revocation.Delta.Wire
import Revocation.Ledger

/-!
A registry's history as a server tells it. What comes back is checked to lead from the one value to
the other; equal values are sent too, so that the server can refuse one that it does not know.
-/
namespace Revocation.RemoteLedger

variable {σ : Type} (m : Modulus) (service : Http.Service) (server : Http.Server σ)

def failed (path : String) : Http.Fault → Failure
  | .status code => .ledger (.status path code)
  | .failure kind text => if kind.isRequest then .ledger (.network path text) else .transport text
  | .wait f => .wait f
  | .address f => .address f
  | .noServer url => .noServer url

/-- The object in an answer. -/
def judge (path : String) (r : Http.Response) : Except Failure Json.Members :=
  if r.status = 404 then .error (.unknownState (.remote path))
  else if r.isError then .error (.ledger (.status path r.status))
  else match Json.parseBody r.body with
    | .error f => .error ((Malformed.unreadable f).failure fun _ => .ledger (.notJson path))
    | .ok (.object ms) => .ok ms
    | .ok _ => .error (.ledger (.notObject path))

def ask (path : String) (query : Option String) : Session (Http.Traffic σ) Json.Members := do
  let r ← EStateM.adaptExcept (failed path) (service.get server path query)
  Session.ofExcept (judge path r)

def headOf (ms : Json.Members) : Except Malformed Int := do
  m.decodeValue (← Record.member (.object ms) "accumulator")

def head : Session (Http.Traffic σ) Int := do
  let ms ← ask service server "head" none
  Session.ofExcept (Malformed.reported (fun c => .ledger (.invalidHead c)) (headOf m ms))

def deltasOf (ms : Json.Members) : Except Failure (List (Delta Int)) :=
  match Json.Members.get? "deltas" ms with
  | some (.array records) => records.mapM (Delta.ofJson m)
  | _ => .error (.ledger .noDeltas)

def between (source target : Int) : Session (Http.Traffic σ) (List (Delta Int)) := do
  let a ← Session.ofExcept (m.encode source)
  let b ← Session.ofExcept (m.encode target)
  let ms ← ask service server "deltas" (some s!"from={a}&to={b}")
  let deltas ← Session.ofExcept (deltasOf m ms)
  Session.ofExcept (Delta.checkChain deltas (some source) (some target))
  return deltas

def source : LedgerSource (Http.Traffic σ) := ⟨head m service server, between m service server⟩

end Revocation.RemoteLedger
