import Revocation.Console.Literal.Grammar.Call
import Revocation.Console.Literal.Grammar.Parameters

/-!
The grammar of expressions. It is followed twice where a text has no expression in it: the second
time rules for common mistakes tell what is wrong.
-/
namespace Revocation.Console.Literal.Grammar

open Reader

variable (self : Rule → Reader Expression)

/-! Operators -/

def factor : Reader Expression :=
  (do let w ← anyMark ["+", "-", "~"]; return .signed w (← self .factor)) <|> self .awaited

/-- Which operators bind more tightly than others makes no difference here. -/
def bitwise : Reader Expression := do
  let first ← self .factor
  let more ← many (do let w ← anyMark operators; return (w, ← self .factor))
  return more.foldl (fun left (w, right) => .operation w left right) first

/-- A comparing operator; whether it asks for a member. -/
def comparing : Reader Bool :=
  (do let _ ← anyMark comparisons; return false) <|>
  (do keyword "not"; keyword "in"; return false) <|>
  (do keyword "in"; return true) <|>
  (do keyword "is"; let _ ← optional (keyword "not"); return false)

def comparison : Reader Expression := do
  let left ← self .bitwise
  match ← many (do let isMember ← comparing; let _ ← self .bitwise; return isMember) with
  | [] => return left
  | isMember :: _ => return .comparison isMember left

def inversion : Reader Expression :=
  (do keyword "not"; let _ ← self .inversion; return .of .operation) <|> comparison self

def chain (w : String) (x : Reader Expression) : Reader Expression := do
  let first ← x
  match ← many (do keyword w; x) with
  | [] => return first
  | _ => return .of .operation

/-! Expressions -/

def function : Reader Expression := do
  keyword "lambda"
  let _ ← optional (Parameters.all self)
  mark ":"
  let _ ← self .expression
  return .of .function

def conditional : Reader Expression := do
  let _ ← self .disjunction
  keyword "if"
  let _ ← self .disjunction
  keyword "else"
  let _ ← self .expression
  return .of .conditional

def goodExpression : Reader Expression :=
  conditional self <|> self .disjunction <|> function self

def isStatement : Expression → Bool
  | .name w => statements.contains w
  | _ => false

/-- Two expressions in a row, or a condition without its other side. -/
def badExpression {α : Type} : Reader α := do
  match ← optional (do
    notAhead ((do let _ ← name; let _ ← tokenThat isText) <|>
      do let w ← name; if softKeywords.contains w then return () else nothing)
    let e ← self .disjunction
    let _ ← unsearching (goodExpression self)
    return (e, ← depth)) with
  | some (e, depth) => if isStatement e || depth = 0 then nothing else fault .missingComma
  | none =>
    let _ ← self .disjunction
    keyword "if"
    let _ ← self .disjunction
    notAhead (keyword "else" <|> mark ":")
    fault .missingElse

/-- A statement of old. -/
def badStatement {α : Type} : Reader α := do
  let w ← name
  notAhead (mark "(")
  let _ ← starExpressions self
  if statements.contains w then fault (.missingCall w) else nothing

def expression : Reader Expression :=
  searching (badExpression self) <|> searching (badStatement self) <|> goodExpression self

/-- A sign that gives a value to what is no name, or in a place for none. -/
def misnamed : Reader Expression :=
  (do
    let e ← self .expression
    mark ":="; let _ ← self .expression
    fault (.named e.form)) <|>
  (do
    let _ ← name
    mark "="; let _ ← self .bitwise; notAhead (anyMark ["=", ":="])
    fault .nameEquals) <|>
  (do
    notAhead ((do let _ ← tuple self) <|> (do let _ ← generator self) <|> do let _ ← truth)
    let e ← self .bitwise
    mark "="; let _ ← self .bitwise; notAhead (anyMark ["=", ":="])
    fault (.assigned e.form))

/-- What a rule says. -/
def rule : Rule → Reader Expression
  | .expression => expression self
  | .starExpression => item self (self .expression)
  | .disjunction => chain "or" (self .conjunction)
  | .conjunction => chain "and" (self .inversion)
  | .inversion => inversion self
  | .bitwise => bitwise self
  | .factor => factor self
  | .awaited => (do keyword "await"; let _ ← self .primary; return .of .await) <|> self .primary
  | .primary => primary self
  | .arguments => arguments self
  | .target => target self
  | .targetAtom => targetAtom self
  | .targetPrimary => targetPrimary self
  | .misnamed => misnamed self

/-- Follows a rule, from one to the next at most so many times. -/
def follow : (fuel : Nat) → Rule → Reader Expression
  | 0, _ => nothing
  | n + 1, r => kept r (rule (follow n) r)

/-- The expression that a text is. Each token ends fewer rules than there are. -/
def whole : Reader Expression := fun s place known =>
  let read : Reader Expression := do
    let e ← expressions (follow (32 * (s.tokens.size + 2)))
    let _ ← many (tokenThat (· = .newline))
    theEnd
    return e
  read s place known

/-- The expression that the tokens make. -/
def expressionOf (ts : List Token) (ending : Ending) : Except Fault Expression := do
  if let .broken f := ending then throw f
  match ← whole ⟨ts.toArray, ending, false⟩ 0 ∅ with
  | (some (e, _), _) => return e
  | (none, _) =>
    let _ ← whole ⟨ts.toArray, ending, true⟩ 0 ∅
    throw .invalid

end Revocation.Console.Literal.Grammar
