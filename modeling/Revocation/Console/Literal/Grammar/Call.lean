import Revocation.Console.Literal.Grammar.Brackets

/-!
Calls with their arguments, and the targets to which loops give values.
-/
namespace Revocation.Console.Literal.Grammar

open Reader

variable (self : Rule → Reader Expression)

/-- An argument by name. -/
def byName : Reader Expression := do
  let w ← name
  mark "="
  return .pair (.name w) (← self .expression)

def badByName {α : Type} : Reader α :=
  (do let w ← truth; mark "="; fault (.noTarget (.truth w))) <|>
  (do let _ ← name; mark "="; let _ ← self .expression; loops self; fault .nameEquals) <|>
  (do
    notAhead (do let _ ← name; mark "=")
    let _ ← self .expression
    mark "="; fault .argumentEquals)

def namedOrStarred : Reader Expression :=
  searching (badByName self) <|> byName self <|> starred self

def namedOrUnpacked : Reader Expression :=
  searching (badByName self) <|> byName self <|>
    (do mark "**"; return .unpacked (← self .expression))

def namedArguments : Reader (List Expression) :=
  (do
    let first ← separated (namedOrStarred self)
    mark ","
    return first ++ (← separated (namedOrUnpacked self))) <|>
  separated (namedOrStarred self) <|> separated (namedOrUnpacked self)

def positional : Reader Expression :=
  starred self <|> do
    let e ← assignment self <|> unnamed self
    notAhead (mark "=")
    return e

def allArguments : Reader (List Expression) :=
  (do
    let first ← separated (positional self)
    return first ++ (← optional (do mark ","; namedArguments self)).getD []) <|>
  namedArguments self

def isPositional : Expression → Bool
  | .pair _ _ => false
  | .unpacked _ => false
  | _ => true

def isUnpacked : Expression → Bool
  | .unpacked _ => true
  | _ => false

def badArguments {α : Type} : Reader α :=
  (do
    let _ ← allArguments self
    mark ","; let _ ← starred self; notAhead (mark "=")
    fault .lateUnpacking) <|>
  (do
    let _ ← self .expression; loops self; mark ","
    let _ ← optional ((do let _ ← allArguments self) <|> do let _ ← self .expression; loops self)
    fault .bareGenerator) <|>
  (do let _ ← name; mark "="; let _ ← self .expression; loops self; fault .nameEquals) <|> do
    match ← optional (do let all ← allArguments self; loops self; return all) with
    | some all => if (all.filter isPositional).length ≤ 1 then nothing else fault .bareGenerator
    | none =>
      let all ← allArguments self
      mark ","
      (do let _ ← self .expression; loops self; fault .bareGenerator) <|>
        do let _ ← allArguments self; fault (.latePosition (all.any isUnpacked))

def arguments : Reader Expression :=
  (do
    let all ← allArguments self
    let _ ← optional (mark ",")
    ahead (mark ")")
    return .tuple all) <|>
  searching (badArguments self)

def argumentsOf : Option Expression → List Expression
  | some (.tuple all) => all
  | _ => []

/-- What makes a larger expression of the one before it. -/
def trailer : Reader (Expression → Expression) :=
  (do mark "."; let _ ← name; return fun _ => .of .attribute) <|>
  (do let e ← generator self; return fun f => .call f [e]) <|>
  (do
    mark "("; let all ← optional (self .arguments); mark ")"
    return fun f => .call f (argumentsOf all))

def primary : Reader Expression := do
  let first ← atom self
  return (← many (trailer self)).foldl (fun e f => f e) first

/-! Targets of loops -/

def startsTrailer : Reader Unit := ahead (anyMark ["(", "."])

def targetPrimary : Reader Expression := do
  let e ← atom self
  startsTrailer
  let _ ← many (do let _ ← trailer self; startsTrailer)
  return e

def targetAtom : Reader Expression :=
  (do
    let _ ← self .targetPrimary
    mark "."; let _ ← name; notAhead startsTrailer
    return .of .attribute) <|>
  (.name <$> name) <|>
  (do mark "("; let e ← self .targetAtom; mark ")"; return e) <|>
  (do
    mark "("
    let _ ← optional (do
      let _ ← self .target
      mark ","
      let _ ← optional (do
        let _ ← separated (self .target)
        let _ ← optional (mark ",")))
    mark ")"
    return .of .tuple)

def target : Reader Expression :=
  (do mark "*"; notAhead (mark "*"); self .target) <|> self .targetAtom

end Revocation.Console.Literal.Grammar
