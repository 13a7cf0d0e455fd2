import Revocation.Console.Literal.Grammar.Words

/-!
The parameters of functions.
-/
namespace Revocation.Console.Literal.Grammar

open Reader

namespace Parameters

variable (self : Rule → Reader Expression)

def parameterEnd : Reader Unit := mark "," <|> ahead (mark ":")

def default : Reader Unit :=
  (do mark "="; let _ ← self .expression) <|>
  searching (do mark "="; ahead (anyMark [")", ","]); fault .missingDefault)

def plain : Reader Unit := do let _ ← name; parameterEnd

def defaulted : Reader Unit := do let _ ← name; default self; parameterEnd

def parameter : Reader Unit := do let _ ← name; let _ ← optional (default self); parameterEnd

def someOf (x : Reader Unit) : Reader Unit := do let _ ← several x

def anyOf (x : Reader Unit) : Reader Unit := do let _ ← many x

def perhaps (x : Reader Unit) : Reader Unit := do let _ ← optional x

def slash : Reader Unit := do mark "/"; parameterEnd

/-- Parameters before a slash, without a default or the last of them with one. -/
def plainBefore : Reader Unit := do someOf plain; slash

def defaultedBefore : Reader Unit := do anyOf plain; someOf (defaulted self); slash

def badLast {α : Type} : Reader α := do
  mark "**"
  let _ ← name
  (do mark "="; fault (.parameter .defaultOfLast)) <|> do
    mark ","
    (do let _ ← name) <|> do let _ ← anyMark ["*", "**", "/"]
    fault (.parameter .afterLast)

/-- The one for all arguments by name. -/
def last : Reader Unit := searching badLast <|> do mark "**"; plain

def badStarred {α : Type} : Reader α :=
  (do
    mark "*"
    mark ":" <|> do mark ","; let _ ← anyMark [":", "**"]
    fault (.parameter .bareStar)) <|>
  (do mark "*"; let _ ← name; mark "="; fault (.parameter .defaultOfStarred)) <|>
  (do
    mark "*"; plain <|> mark ","; anyOf (parameter self); mark "*"; plain <|> mark ","
    fault (.parameter .secondStar))

/-- The one for all arguments by position, or a star alone, and those after it. -/
def starred : Reader Unit :=
  searching (badStarred self) <|>
  (do mark "*"; plain; anyOf (parameter self); perhaps last) <|>
  (do mark "*"; mark ","; someOf (parameter self); perhaps last) <|>
  last

def bad {α : Type} : Reader α :=
  (do
    anyOf plain; defaultedBefore self <|> someOf (defaulted self); plain
    fault (.parameter .plainAfterDefault)) <|>
  (do
    anyOf plain; mark "("; let _ ← separated name; perhaps (mark ","); mark ")"
    fault (.parameter .inBrackets)) <|>
  (do mark "/"; mark ","; fault (.parameter .firstSlash)) <|>
  (do
    plainBefore <|> defaultedBefore self; anyOf (parameter self); mark "/"
    fault (.parameter .secondSlash)) <|>
  (do
    perhaps (plainBefore <|> defaultedBefore self); anyOf (parameter self)
    mark "*"; mark "," <|> plain; anyOf (parameter self); mark "/"
    fault (.parameter .slashAfterStar)) <|>
  (do someOf (parameter self); mark "/"; mark "*"; fault (.parameter .noCommaAfterSlash))

/-- Parameters without a default, then some with one, then those after a star; a slash may stand
once after some of the first two kinds. -/
def all : Reader Unit :=
  let rest : Reader Unit := do anyOf (defaulted self); perhaps (starred self)
  searching (bad self) <|>
  (do plainBefore; anyOf plain; rest) <|>
  (do defaultedBefore self; rest) <|>
  (do someOf plain; rest) <|>
  (do someOf (defaulted self); perhaps (starred self)) <|>
  starred self

end Parameters
end Revocation.Console.Literal.Grammar
