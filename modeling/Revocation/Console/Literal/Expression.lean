import Revocation.Console.Literal.Fault

/-!
Expressions, as far as their parts matter to the value that is written.
-/
namespace Revocation.Console.Literal

inductive Expression
  | number (imaginary : Bool)
  | name (word : String)
  /-- An expression of which no part matters. -/
  | of (form : Form)
  | tuple (items : List Expression)
  | set (items : List Expression)
  /-- Pairs, and dictionaries to unpack. -/
  | dictionary (members : List Expression)
  | pair (key value : Expression)
  | unpacked (members : Expression)
  | starred (items : Expression)
  | call (function : Expression) (arguments : List Expression)
  | signed (sign : String) (e : Expression)
  | operation (sign : String) (left right : Expression)
  /-- A comparison with something on its left side; whether it asks for a member. -/
  | comparison (isMember : Bool) (left : Expression)
deriving Inhabited

namespace Expression

def form : Expression → Form
  | .number _ => .literal
  | .name _ => .name
  | .of f => f
  | .tuple _ => .tuple
  | .set _ => .set
  | .dictionary _ => .dictionary
  | .call _ _ => .call
  | .signed _ _ => .operation
  | .operation _ _ _ => .operation
  | .comparison _ _ => .comparison
  | .pair _ _ => .starred
  | .unpacked _ => .starred
  | .starred _ => .starred

mutual

/-- What in an expression keeps a loop from giving it values, if anything. A comparison that asks
for a member is the start of the loop itself. -/
def noTarget? : Expression → Option Form
  | .name _ => none
  | .of .attribute => none
  | .starred e => e.noTarget?
  | .tuple items => noTargets? items
  | .comparison isMember left => if isMember then left.noTarget? else none
  | e => some e.form

def noTargets? : List Expression → Option Form
  | [] => none
  | e :: es => e.noTarget?.or (noTargets? es)

end

end Expression
end Revocation.Console.Literal
