import Revocation.Console.Literal.Grammar

/-!
Values written out: numbers, texts, a few constants, and tuples, sets and dictionaries of them.
-/
namespace Revocation.Console.Literal

/-- A number without a sign, and whether it is imaginary. -/
def bare : Expression → Except Fault Bool
  | .number imaginary => .ok imaginary
  | _ => .error .malformed

def isSign (w : String) : Bool := w = "+" || w = "-"

/-- A number, with a sign perhaps. -/
def signed : Expression → Except Fault Bool
  | .signed w e => if isSign w then bare e else .error .malformed
  | e => bare e

/-- An imaginary number may be added to one that is not. -/
def sum (left right : Expression) : Except Fault Unit := do
  let first ← signed left
  let second ← bare right
  if second && !first then return () else throw .malformed

def Form.isConstant : Form → Bool
  | .literal => true
  | .ellipsis => true
  | .truth _ => true
  | _ => false

def asKey : Option String → Except Fault Unit
  | some kind => .error (.unhashable kind)
  | none => .ok ()

mutual

/-- Whether an expression is a value; if so, what in it keeps it from being a key. -/
def unhashable? : Expression → Except Fault (Option String)
  | .of f => if f.isConstant then .ok none else .error .malformed
  | .tuple items => unhashableAmong? items
  | .set items => do elements items; return some "set"
  | .dictionary ms => do members ms; return some "dict"
  | .call (.name "set") [] => .ok (some "set")
  | .operation w left right =>
    if isSign w then (sum left right).map fun _ => none else .error .malformed
  | e => (signed e).map fun _ => none

def unhashableAmong? : List Expression → Except Fault (Option String)
  | [] => .ok none
  | e :: es => do return (← unhashable? e).or (← unhashableAmong? es)

/-- The elements of a set are keys. -/
def elements : List Expression → Except Fault Unit
  | [] => .ok ()
  | e :: es => do asKey (← unhashable? e); elements es

/-- The members of a dictionary, each a key with a value. -/
def members : List Expression → Except Fault Unit
  | [] => .ok ()
  | .pair k v :: ms => do
    let key ← unhashable? k
    let _ ← unhashable? v
    asKey key
    members ms
  | _ :: _ => .error .unpacked

end

/-- Whether a text is a value written out. -/
def check (cs : List Char) : Except Fault Unit := do
  let (ts, ending) := tokensOf cs
  let _ ← unhashable? (← Grammar.expressionOf ts ending)
  return ()

/-- The arguments in round brackets after a name with dots, or an empty list of them where the name
has none. -/
def called? (cs : List Char) : Option (List Char) :=
  let arguments := cs.dropWhile fun c => Text.isWord c || c = '.'
  match arguments with
  | [] => some ['(', ')']
  | c :: rest =>
    if c = '(' && rest.getLast? = some ')' && !rest.contains '\n' then some arguments else none

end Revocation.Console.Literal
