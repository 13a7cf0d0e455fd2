import Revocation.CommandLine.Options
import Revocation.FileStore
import Revocation.Numeral

/-!
The commands and their options.
-/
namespace Revocation.CommandLine

structure CheckOptions where
  source : String
  /-- Whether the credential's definition supports revocation. -/
  revocable : Bool
  json : Bool
  /-- In seconds, as the 64 bits of a double. -/
  timeout : Nat

structure RefreshOptions where
  source : String
  ledger : String
  tails : String
  target : Option String
  output : Option String
  verify : Bool
  timeout : Nat
  attempts : Int

inductive Command
  | checkBinding (options : CheckOptions)
  | refresh (options : RefreshOptions)
  | help
  | version

def mainOptions : Declared :=
  [("--verbose", false), ("-v", false), ("--version", false), ("--help", false)]

def checkDeclared : Declared :=
  [("--revocable", false), ("--non-revocable", false), ("--json-output", false),
    ("--timeout", true), ("--help", false)]

def refreshDeclared : Declared :=
  [("--ledger", true), ("--tails", true), ("--target", true), ("--output", true), ("-o", true),
    ("--no-ssl-verify", false), ("--timeout", true), ("--retries", true), ("--help", false)]

/-- Half a minute unless another time is given. -/
def timeoutOf (g : Given) : Option Nat :=
  match g.value? "--timeout" with
  | none => some (Binary64.ofInt 30).toBits
  | some s => (Numeral.readReal? s).map Binary64.toBits

def attemptsOf (g : Given) : Option Int :=
  match g.value? "--retries" with
  | none => some 3
  | some s => (Numeral.readInt s).toOption

/-- The names of the option for the file to write. -/
def outputNames : List String := ["--output", "-o"]

/-- An empty name is none. -/
def outputOf (g : Given) : Option String :=
  match g.last? outputNames with
  | none => none
  | some (_, "") => none
  | some (_, s) => some s

/-- Why arguments ask for no command. -/
inductive Misuse
  | improper
  /-- A name that cannot be that of a file, which is found out too late to be called improper. -/
  | nullByte
deriving DecidableEq

def Misuse.status : Misuse → Nat
  | .improper => 2
  | .nullByte => 1

/-- A file to write must not be a directory. -/
def checkOutput (files : FileStore) (name : String) : Except Misuse Unit :=
  if name.toList.contains '\x00' then .error .nullByte
  else if name ≠ "" ∧ files.holdsDirectory (Path.ofString name) then .error .improper
  else .ok ()

def sourceOf (g : Given) : Option String :=
  match g.arguments with
  | [source] => some source
  | _ => none

def checkOf (g : Given) : Option Command := do
  let source ← sourceOf g
  let timeout ← timeoutOf g
  return .checkBinding {
    source, timeout
    revocable := !(g.last? ["--revocable", "--non-revocable"]).any (·.1 = "--non-revocable")
    json := g.has "--json-output" }

/-- What is wrong with the value that an option ends up with. -/
def misuse? (files : FileStore) (g : Given) (name : String) : Option Misuse :=
  if name = "--timeout" then if (timeoutOf g).isSome then none else some .improper
  else if name = "--retries" then if (attemptsOf g).isSome then none else some .improper
  else if outputNames.contains name then
    match checkOutput files (((g.last? outputNames).map (·.2)).getD "") with
    | .ok () => none
    | .error m => some m
  else none

def refreshOf (g : Given) : Option Command := do
  let source ← sourceOf g
  let timeout ← timeoutOf g
  let attempts ← attemptsOf g
  let ledger ← g.value? "--ledger"
  let tails ← g.value? "--tails"
  return .refresh {
    source, timeout, attempts, ledger, tails
    output := outputOf g
    target := g.value? "--target"
    verify := !g.has "--no-ssl-verify" }

/-- Looks at the values in the order in which they are given, and then for what is missing. Help
goes before everything else. -/
def decided (files : FileStore) (g : Given) (command : Option Command) : Except Misuse Command :=
  if g.has "--help" then .ok .help
  else match g.options.findSome? fun (name, _) => misuse? files g name, command with
    | some m, _ => .error m
    | none, some c => .ok c
    | none, none => .error .improper

def given (declared : Declared) (mixed : Bool) (args : List String) : Except Misuse Given :=
  match read declared mixed args with
  | some g => .ok g
  | none => .error .improper

/-- The command that the arguments ask for. -/
def Command.ofArguments (files : FileStore) (args : List String) : Except Misuse Command := do
  let g ← given mainOptions false args
  match g.last? ["--help", "--version"], g.arguments with
  | some _, _ =>
    if (g.options.find? fun (n, _) => n = "--help" || n = "--version").any (·.1 = "--help")
    then return .help else return .version
  | none, "check-binding" :: args => do
    let g ← given checkDeclared true args
    decided files g (checkOf g)
  | none, "refresh" :: args => do
    let g ← given refreshDeclared true args
    decided files g (refreshOf g)
  | none, _ => throw .improper

/-- The files that a command may read or write. -/
def Command.paths : Command → List String
  | .checkBinding o => [o.source]
  | .refresh o => o.source :: o.output.toList
  | _ => []

end Revocation.CommandLine
