import Revocation.Console.Literal.Grammar.Words

/-!
Expressions in brackets and the loops over them: tuples, groups, generators, dictionaries and sets.
A reader is known for each rule; those for what is bad show a fault or find nothing.
-/
namespace Revocation.Console.Literal.Grammar

open Reader

/-- One expression, or a tuple where a comma follows. -/
def listed (x : Reader Expression) : Reader Expression := do
  let items ← separated x
  match items, ← optional (mark ",") with
  | [e], none => return e
  | items, _ => return .tuple items

variable (self : Rule → Reader Expression)

def expressions : Reader Expression := listed (self .expression)

def starExpressions : Reader Expression := listed (self .starExpression)

/-- An item that may be unpacked. -/
def item (x : Reader Expression) : Reader Expression :=
  (do mark "*"; return .starred (← self .bitwise)) <|> x

def assignment : Reader Expression := do
  let _ ← name
  mark ":="
  let _ ← self .expression
  return .of .named

/-- An expression that names nothing. -/
def unnamed : Reader Expression := do
  let e ← self .expression
  notAhead (mark ":=")
  return e

def namedExpression : Reader Expression :=
  assignment self <|> searching (self .misnamed) <|> unnamed self

def namedItem : Reader Expression := item self (namedExpression self)

def namedItems : Reader (List Expression) := do
  let items ← separated (namedItem self)
  let _ ← optional (mark ",")
  return items

def yieldExpression : Reader Expression := do
  keyword "yield"
  (do keyword "from"; let _ ← self .expression) <|> (do let _ ← optional (starExpressions self))
  return .of .yield

/-- An unpacked argument; a star must have an expression after it. -/
def starred : Reader Expression := do
  mark "*"
  (do return .starred (← self .expression)) <|> fault .emptyStar

/-! Loops -/

def anyTargets : Reader Unit := do
  let _ ← self .target
  notAhead (mark ",") <|> do
    let _ ← many (do mark ","; self .target)
    let _ ← optional (mark ",")

/-- What a loop gives values to is no target. -/
def badLoop {α : Type} : Reader α := do
  let _ ← optional (keyword "async")
  keyword "for"
  match (← starExpressions self).noTarget? with
  | some f => fault (.noTarget f)
  | none => nothing

def loop : Reader Unit := do
  match ← optional (do
    let _ ← optional (keyword "async"); keyword "for"; anyTargets self; keyword "in") with
  | some _ =>
    let _ ← self .disjunction
    let _ ← many (do keyword "if"; self .disjunction)
  | none => searching (badLoop self)

def loops : Reader Unit := do let _ ← several (loop self)

/-- A comprehension over what cannot be unpacked. -/
def badComprehension {α : Type} : Reader α :=
  (do
    let _ ← anyMark ["(", "\x7b"]; let _ ← starred self; loops self
    fault .starredComprehension) <|>
  (do
    mark "\x7b"; let _ ← namedItem self; mark ","
    (do let _ ← namedItems self; loops self) <|> loops self
    fault .tupleComprehension)

def generator : Reader Expression :=
  (do
    mark "("; let _ ← assignment self <|> unnamed self; loops self; mark ")"
    return .of .generator) <|>
  searching (badComprehension self)

/-! Brackets -/

def tuple : Reader Expression := do
  mark "("
  let items ← optional (do
    let first ← namedItem self
    mark ","
    return first :: (← optional (namedItems self)).getD [])
  mark ")"
  return .tuple (items.getD [])

def badGroup {α : Type} : Reader α :=
  (do mark "("; let _ ← starred self; mark ")"; fault (.starred false)) <|>
  (do mark "("; mark "**"; let _ ← self .expression; mark ")"; fault (.starred true))

def group : Reader Expression :=
  (do mark "("; let e ← yieldExpression self <|> namedExpression self; mark ")"; return e) <|>
  searching (badGroup self)

def pair : Reader Expression := do
  let key ← self .expression
  mark ":"
  return .pair key (← self .expression)

def member : Reader Expression :=
  (do mark "**"; return .unpacked (← self .bitwise)) <|> pair self

/-- A key with something else than a value. -/
def badValue {α : Type} : Reader α :=
  (do
    let _ ← self .expression
    mark ":"; mark "*"; let _ ← self .bitwise
    fault .starredValue) <|>
  (do
    let _ ← self .expression
    mark ":"; ahead (anyMark ["\x7d", ","])
    fault .missingValue)

def badMember {α : Type} : Reader α :=
  (do let _ ← self .expression; notAhead (mark ":"); fault .missingColon) <|> badValue self

def badMembers {α : Type} : Reader α :=
  (do let _ ← separated (member self); mark ","; badMember self) <|> badValue self

def dictionary : Reader Expression :=
  (do
    mark "\x7b"
    let members ← optional (do
      let members ← separated (member self)
      let _ ← optional (mark ",")
      return members)
    mark "\x7d"
    return .dictionary (members.getD [])) <|>
  (do mark "\x7b"; badMembers self)

def set : Reader Expression := do
  mark "\x7b"
  let items ← namedItems self
  mark "\x7d"
  return .set items

def dictionaryComprehension : Reader Expression :=
  (do
    mark "\x7b"; let _ ← pair self; loops self; mark "\x7d"
    return .of .dictionaryComprehension) <|>
  searching (do
    mark "\x7b"; mark "**"; let _ ← self .bitwise; loops self; mark "\x7d"
    fault .unpackedComprehension)

def setComprehension : Reader Expression :=
  (do
    mark "\x7b"; let _ ← namedExpression self; loops self; mark "\x7d"
    return .of .setComprehension) <|>
  searching (badComprehension self)

def atom : Reader Expression :=
  (.name <$> name) <|>
  ((fun w => .of (.truth w)) <$> truth) <|>
  (do ahead (tokenThat isText); texts) <|>
  number <|>
  (do ahead (mark "("); tuple self <|> group self <|> generator self) <|>
  (do
    ahead (mark "\x7b")
    dictionary self <|> set self <|> dictionaryComprehension self <|> setComprehension self) <|>
  (do mark "..."; return .of .ellipsis)

end Revocation.Console.Literal.Grammar
