import Revocation.CommandLine.CheckBinding
import Revocation.CommandLine.Refresh

/-!
The program as a function of its arguments, its input, its files and the servers that it reaches.
-/
namespace Revocation.CommandLine

variable {σ : Type}

def usage : String :=
  "Usage: [-v|--verbose] check-binding [--revocable|--non-revocable] [--json-output] " ++
    "[--timeout SECONDS] SOURCE\n" ++
  "       [-v|--verbose] refresh --ledger URL --tails URL [--target VALUE] [-o|--output FILE] " ++
    "[--no-ssl-verify] [--timeout SECONDS] [--retries N] SOURCE\n"

/-- A use that is not understood prints nothing on the standard output. -/
def run (server : Http.Server σ) (input : Bytes) (args : List String) (w : World σ) :
    Ending × World σ :=
  match Command.ofArguments w.files args with
  | .error m => (⟨m.status, ""⟩, w)
  | .ok .help => (⟨0, usage⟩, w)
  | .ok .version => (⟨0, "version 0.1.0\n"⟩, w)
  | .ok (.checkBinding o) => CheckBinding.run server input o w
  | .ok (.refresh o) => Refresh.run server input o w

end Revocation.CommandLine
