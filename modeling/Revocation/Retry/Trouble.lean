import Revocation.Retry

/-!
Kinds of trouble that an operation can run into, from general to special. A policy that retries one
kind retries all kinds under it.
-/
namespace Revocation

inductive Trouble
  | any
  | system | connection | connectionReset | timeout
  | value | encoding
  | lookup | missingKey | missingPosition
  | arithmetic | zeroDivision | overflow
  | runtime
deriving DecidableEq

namespace Trouble

/-- A kind and all kinds above it. -/
def ancestry : Trouble → List Trouble
  | .any => [.any]
  | .system => [.system, .any]
  | .connection => [.connection, .system, .any]
  | .connectionReset => [.connectionReset, .connection, .system, .any]
  | .timeout => [.timeout, .system, .any]
  | .value => [.value, .any]
  | .encoding => [.encoding, .value, .any]
  | .lookup => [.lookup, .any]
  | .missingKey => [.missingKey, .lookup, .any]
  | .missingPosition => [.missingPosition, .lookup, .any]
  | .arithmetic => [.arithmetic, .any]
  | .zeroDivision => [.zeroDivision, .arithmetic, .any]
  | .overflow => [.overflow, .arithmetic, .any]
  | .runtime => [.runtime, .any]

/-- Whether the kind is under one of the given kinds. -/
def isUnder (t : Trouble) (kinds : List Trouble) : Bool := t.ancestry.any (· ∈ kinds)

end Trouble

/-- The kind of trouble that it is to have no wait. -/
def RetryPolicy.WaitFault.trouble : WaitFault → Trouble
  | .zeroToNegativePower => .zeroDivision
  | .powerTooLarge | .exponentTooLarge | .tooLong => .overflow
  | .notANumber | .negative => .value

end Revocation
