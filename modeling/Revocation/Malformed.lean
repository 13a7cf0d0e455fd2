import Revocation.Json.Printer
import Revocation.Json.Reader

/-!
What keeps a value from outside from being the record that it should be.
-/
namespace Revocation

inductive Malformed
  | missing (member : String)
  /-- A member was asked of a value that is no object. -/
  | notObject (shape : Json.Shape)
  /-- Items were asked of a value that has none. -/
  | notIterable (shape : Json.Shape)
  | notNumeric (shape : Json.Shape)
  | notNumeral (text : String)
  | numeralTooLong (digits : Nat)
  | notANumber
  | infinite
  | notText (shape : Json.Shape)
  | badHex (fault : Hex.Fault)
  | outOfRange
  /-- The answer is for another index; `shown` is the index as answered. -/
  | otherIndex (shown : String)
  | unreadable (fault : Json.Fault)
  | badPath
deriving DecidableEq

namespace Malformed

def notObjectMessage : Json.Shape → String
  | .array => "list indices must be integers or slices, not str"
  | .string => "string indices must be integers, not 'str'"
  | s => s!"'{s.name}' object is not subscriptable"

/-- Null has a shorter name here than elsewhere. -/
def textShapeName : Json.Shape → String
  | .null => "None"
  | s => s.name

def message : Malformed → String
  | .missing member => Text.quoted member
  | .notObject s => notObjectMessage s
  | .notIterable s => s!"'{s.name}' object is not iterable"
  | .notNumeric s =>
    s!"int() argument must be a string, a bytes-like object or a real number, not '{s.name}'"
  | .notNumeral text => Numeral.Fault.malformed.message text
  | .numeralTooLong digits => (Numeral.Fault.tooLong digits).message ""
  | .notANumber => "cannot convert float NaN to integer"
  | .infinite => "cannot convert float infinity to integer"
  | .notText s =>
    s!"Invalid element encoding: fromhex() argument must be str, not {textShapeName s}"
  | .badHex f =>
    "Invalid element encoding: non-hexadecimal number found in fromhex() arg at position " ++
      toString f.position
  | .outOfRange => "Element out of range for modulus"
  | .otherIndex shown => s!"server answered for index {shown}"
  | .unreadable f => f.message
  | .badPath => "embedded null byte"

end Malformed
end Revocation
