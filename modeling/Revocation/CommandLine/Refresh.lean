import Revocation.Binding.Wire
import Revocation.CommandLine.Command
import Revocation.CommandLine.Source
import Revocation.Ledger.Remote
import Revocation.Tails.Remote

/-!
The command that brings a credential's witness to the newest state of its registry, or to a given
one. It ends with 0 when the credential has been written, with 1 when it is revoked, and with 2
otherwise.
-/
namespace Revocation.CommandLine.Refresh

variable {σ : Type}

def policyOf (o : RefreshOptions) : Except Failure RetryPolicy :=
  match RetryPolicy.make? o.attempts 0.5 0.25 with
  | some p => .ok p
  | none => .error .attemptsNotPositive

/-- The accumulator value to reach; an empty one counts as none given. -/
def targetOf (o : RefreshOptions) : Except Failure (Option Int) :=
  match o.target with
  | none => .ok none
  | some "" => .ok none
  | some s => (Malformed.reported .malformed (Modulus.standard.decode s)).map some

/-- Asks the servers for what the new witness takes. -/
def refreshed (server : Http.Server σ) (o : RefreshOptions) (ms : Json.Members) :
    Session (RemoteTails.Cache × Http.Traffic σ) Binding := do
  let m := Modulus.standard
  match ← Session.ofExcept (Binding.parse m ms true) with
  | .nonRevocable => return .nonRevocable
  | .revocable b =>
    let policy ← Session.ofExcept (policyOf o)
    let service (url : String) : Http.Service := ⟨url, o.timeout, o.verify, policy⟩
    let c : Recomputer (RemoteTails.Cache × Http.Traffic σ) :=
      ⟨m, RemoteTails.fetch m (service o.tails) server, b.registryId⟩
    let target ← Session.ofExcept (targetOf o)
    return .revocable
      (← b.refresh c (RemoteLedger.source m (service o.ledger) server).inner target)

/-- The credential with its binding members replaced. A lone surrogate in any other member does not
come through, see `Encoding.character`. -/
def updated (ms : Json.Members) (b : Binding) : Except Failure Json :=
  (b.payload Modulus.standard).map fun binding => .object (Json.Members.merge ms binding)

def online {α : Type} (run : Session (RemoteTails.Cache × Http.Traffic σ) α) : Work σ α := fun w =>
  match run ([], w.traffic) with
  | .ok a (_, traffic) => .ok a { w with traffic }
  | .error e (_, traffic) => .error (.failure e) { w with traffic }

def save (path : Path) (text : String) : Work σ Unit := do
  let w ← get
  match w.files.write path (Bytes.ofText text) with
  | .ok files => set { w with files }
  | .error f => throw (.failure (.storage f))

def saved (output : String) : Except Mishap String :=
  match Console.printed ("[green]Witness refreshed[/] -> " ++ output) with
  | .ok text => .ok text
  | .error f => .error (.markup f)

def work (server : Http.Server σ) (input : Bytes) (o : RefreshOptions) : Work σ Ending := do
  let ms ← load server input o.source o.timeout
  let b ← online (refreshed server o ms)
  let document ← Work.ofExcept (updated ms b)
  let text := Json.render true document ++ "\n"
  match o.output with
  | none => return ⟨0, text⟩
  | some output =>
    save (Path.ofString output) text
    return ⟨0, ← MonadExcept.ofExcept (saved output)⟩

/-- Only a revoked credential ends with 1. -/
def mishap : Mishap → Ending
  | .failure (.revoked index registry) =>
    report 1 ("[bold red]Revoked:[/] " ++ (Failure.revoked index registry).message)
  | m => report 2 ("[red]Error:[/] " ++ m.text)

def run (server : Http.Server σ) (input : Bytes) (o : RefreshOptions) (w : World σ) :
    Ending × World σ :=
  match work server input o w with
  | .ok ending w => (ending, w)
  | .error m w => (mishap m, w)

end Revocation.CommandLine.Refresh
