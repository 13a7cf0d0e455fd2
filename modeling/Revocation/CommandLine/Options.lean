/-!
Options on a command line. Long ones take their value after an equals sign or from the next
argument, short ones may be put together; two dashes end the options. What cannot be read is a
usage error, for which there is no value.
-/
namespace Revocation.CommandLine

/-- The options of a command by name, and whether each takes a value. -/
abbrev Declared := List (String × Bool)

/-- Options in the order given, with their values, and the other arguments. -/
structure Given where
  options : List (String × String)
  arguments : List String

namespace Given

def argument (value : String) (g : Given) : Given := { g with arguments := value :: g.arguments }

/-- The value of the last option with one of the names. -/
def last? (g : Given) (names : List String) : Option (String × String) :=
  g.options.reverse.find? fun (name, _) => names.contains name

def value? (g : Given) (name : String) : Option String := (g.last? [name]).map (·.2)

def has (g : Given) (name : String) : Bool := (g.value? name).isSome

end Given

/-- What an argument is read as. -/
inductive Reading
  | argument
  | options (read : List (String × String))
  /-- Some options, and then one whose value is the next argument. -/
  | awaiting (read : List (String × String)) (name : String)
  | wrong

/-- Short options put together; the first that takes a value takes what is left. -/
def cluster (declared : Declared) : List Char → Reading
  | [] => .options []
  | c :: rest =>
    let name := String.ofList ['-', c]
    match List.lookup name declared with
    | none => .wrong
    | some true =>
      if rest.isEmpty then .awaiting [] name else .options [(name, String.ofList rest)]
    | some false =>
      match cluster declared rest with
      | .options read => .options ((name, "") :: read)
      | .awaiting read next => .awaiting ((name, "") :: read) next
      | r => r

/-- A name and what follows the first equals sign. -/
def splitEquals (cs : List Char) : String × Option String :=
  let name := String.ofList (cs.takeWhile (· ≠ '='))
  match cs.dropWhile (· ≠ '=') with
  | [] => (name, none)
  | _ :: value => (name, some (String.ofList value))

def readOne (declared : Declared) (arg : String) : Reading :=
  match arg.toList with
  | '-' :: '-' :: cs =>
    let (name, value) := splitEquals ('-' :: '-' :: cs)
    match List.lookup name declared, value with
    | some true, some v => .options [(name, v)]
    | some true, none => .awaiting [] name
    | some false, none => .options [(name, "")]
    | _, _ => .wrong
  | '-' :: c :: cs => cluster declared (c :: cs)
  | _ => .argument

/-- Reads all arguments. Where options must come first, the first other argument ends them. -/
def read (declared : Declared) (mixed : Bool) : List String → Option Given
  | [] => some ⟨[], []⟩
  | arg :: rest =>
    if arg = "--" then some ⟨[], rest⟩
    else match readOne declared arg with
      | .wrong => none
      | .argument =>
        if mixed then (read declared mixed rest).map (Given.argument arg)
        else some ⟨[], arg :: rest⟩
      | .options found => (read declared mixed rest).map fun g => { g with
          options := found ++ g.options }
      | .awaiting found name =>
        match rest with
        | [] => none
        | value :: rest => (read declared mixed rest).map fun g => { g with
            options := found ++ (name, value) :: g.options }

end Revocation.CommandLine
