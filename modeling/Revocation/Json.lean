import Revocation.Binary64

/-!
JSON values. Whole numbers are exact, all other numbers are doubles, and an object keeps its members
in the order in which their names first came.
-/
namespace Revocation

inductive Json
  | null
  | bool (b : Bool)
  | int (n : Int)
  | real (x : Binary64)
  | string (s : String)
  | array (items : List Json)
  | object (members : List (String × Json))
deriving Inhabited

namespace Json

/-- The kinds of values. -/
inductive Shape
  | null | bool | int | real | string | array | object
deriving DecidableEq

def shape : Json → Shape
  | .null => .null
  | .bool _ => .bool
  | .int _ => .int
  | .real _ => .real
  | .string _ => .string
  | .array _ => .array
  | .object _ => .object

/-- A kind of value as messages name it. -/
def Shape.name : Shape → String
  | .null => "NoneType"
  | .bool => "bool"
  | .int => "int"
  | .real => "float"
  | .string => "str"
  | .array => "list"
  | .object => "dict"

def isNull : Json → Bool
  | .null => true
  | _ => false

/-- Values that stand for nothing: null, false, zero, and all that is empty. -/
def isEmpty : Json → Bool
  | .null => true
  | .bool b => !b
  | .int n => n == 0
  | .real x => x.isZero
  | .string s => s.isEmpty
  | .array items => items.isEmpty
  | .object members => members.isEmpty

abbrev Members := List (String × Json)

/-- A name that is there keeps its place and takes the new value. -/
def Members.insert (name : String) (v : Json) : Members → Members
  | [] => [(name, v)]
  | (n, w) :: rest => if n = name then (n, v) :: rest else (n, w) :: Members.insert name v rest

/-- The first members, overridden and extended by the second in their order. -/
def Members.merge (ms ns : Members) : Members := ns.foldl (fun ms (n, v) => ms.insert n v) ms

def Members.get? (name : String) (ms : Members) : Option Json := List.lookup name ms

/-- The member's value, null also where there is no such member. -/
def Members.getOrNull (name : String) (ms : Members) : Json := (ms.get? name).getD .null

end Json
end Revocation
