import Revocation.Binding.Wire
import Revocation.CommandLine.Command
import Revocation.CommandLine.Source

/-!
The command that checks a credential's binding. It ends with 0 for a valid binding, with 1 for an
invalid one, and with 2 where there is no credential to check.
-/
namespace Revocation.CommandLine.CheckBinding

variable {σ : Type}

/-- What is wrong with the binding, if anything. -/
def complaint? (ms : Json.Members) (revocable : Bool) : Except Failure (Option String) :=
  match Binding.parse Modulus.standard ms revocable with
  | .ok _ => .ok none
  | .error (.malformed m) => .error (.malformed m)
  | .error e => .ok (some e.message)

def nameOrNull : Option String → Json
  | some s => .string s
  | none => .null

def jsonReport (ms : Json.Members) (revocable : Bool) (complaint : Option String) : String :=
  Json.render false (.object [
    ("valid", .bool complaint.isNone), ("revocable", .bool revocable),
    ("present", .array ((Binding.present ms).map .string)),
    ("error", nameOrNull complaint)]) ++ "\n"

def rows (ms : Json.Members) (revocable : Bool) (complaint : Option String) :
    List (String × String) :=
  [("Binding", if complaint.isNone then "[bold green]VALID[/]" else "[bold red]INVALID[/]"),
    ("Declared", if revocable then "revocable" else "non-revocable")] ++
  Binding.fields.map (fun name => (name,
    if (Binding.present ms).contains name then "[green]present[/]" else "[dim]absent[/]")) ++
  complaint.toList.map fun text => ("Error", "[red]" ++ text ++ "[/]")

def textReport (ms : Json.Members) (revocable : Bool) (complaint : Option String) :
    Except Mishap String :=
  match Console.panel "Revocation Binding" (rows ms revocable complaint) with
  | .ok text => .ok text
  | .error f => .error (.markup f)

def work (server : Http.Server σ) (input : Bytes) (o : CheckOptions) : Work σ Ending := do
  let ms ← load server input o.source o.timeout
  let complaint ← Work.ofExcept (complaint? ms o.revocable)
  let text ← if o.json then pure (jsonReport ms o.revocable complaint)
    else MonadExcept.ofExcept (textReport ms o.revocable complaint)
  return ⟨if complaint.isNone then 0 else 1, text⟩

/-- What went wrong with a server is marked as such. -/
def mishapText : Mishap → String
  | .status code url => "HTTP error: " ++ (Mishap.status code url).text
  | .transport text => "HTTP error: " ++ text
  | m => m.text

def run (server : Http.Server σ) (input : Bytes) (o : CheckOptions) (w : World σ) :
    Ending × World σ :=
  match work server input o w with
  | .ok ending w => (ending, w)
  | .error m w => (report 2 ("[red]Error:[/] " ++ mishapText m), w)

end Revocation.CommandLine.CheckBinding
