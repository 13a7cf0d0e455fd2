/-!
Bounded retry. An operation that fails in a way worth another attempt is run again after a wait,
each wait a fixed multiple of the one before, until the attempts are used up. Nothing keeps a policy
from asking for waits that no clock can sleep; such a wait ends the retrying with a fault of its
own.
-/
namespace Revocation

structure RetryPolicy where
  /-- All attempts, the first one included. -/
  attempts : Nat
  /-- The wait in seconds after the first attempt. -/
  interval : Float
  /-- Each further wait is `1 + backoff` times the previous one. -/
  backoff : Float
  attempts_pos : 0 < attempts

namespace RetryPolicy

def standard : RetryPolicy := ⟨3, 0.5, 0.25, by decide⟩

def make? (attempts : Int) (interval backoff : Float) : Option RetryPolicy :=
  if h : 0 < attempts.toNat then some ⟨attempts.toNat, interval, backoff, h⟩ else none

/-- Why there is no wait: it has no value, or it cannot be slept. -/
inductive WaitFault
  | zeroToNegativePower
  | powerTooLarge
  | exponentTooLarge
  | notANumber
  | tooLong
  | negative
deriving DecidableEq

/-- The least whole number that rounds to no finite double. -/
def floatLimit : Nat := 1 <<< 1024 - 1 <<< 970

/-- Everything to the power of zero is one, infinity and what is no number included. -/
def power (base : Float) (n : Int) : Float :=
  if n = 0 then 1.0 else Float.pow base (Float.ofInt n)

/-- The wait after the given failed attempt, counted from one. -/
def nextInterval (p : RetryPolicy) (attempt : Int) : Except WaitFault Float :=
  if p.interval == 0.0 then .ok 0.0
  else
    let n := attempt - 1
    if floatLimit ≤ n.natAbs then .error .exponentTooLarge
    else
      let base := 1.0 + p.backoff
      if n < 0 ∧ base == 0.0 then .error .zeroToNegativePower
      else if (power base n).isInf ∧ base.isFinite then .error .powerTooLarge
      else .ok (p.interval * power base n)

/-- A clock sleeps a wait in seconds, or says why it cannot. -/
abbrev Clock := Float → Except WaitFault Unit

/-- The nanoseconds that a clock cannot count to: `2 ^ 63`. -/
def Clock.limit : Float := 9223372036854775808.0

/-- The clock of the system. It sleeps every number of seconds that is not negative and that it can
count in nanoseconds; that a wait of centuries, just under the limit, may be too much for it as well
is left out. -/
def Clock.system : Clock := fun wait =>
  let ticks := wait * 1e9
  if wait.isNaN then .error .notANumber
  else if ticks < -limit ∨ limit ≤ ticks then .error .tooLong
  else if wait < 0.0 then .error .negative
  else .ok ()

/-- What is slept after the given failed attempt; a wait of zero is left out. -/
def rest (p : RetryPolicy) (clock : Clock) (attempt : Int) : Except WaitFault (Option Float) := do
  let wait ← p.nextInterval attempt
  if wait == 0.0 then return none
  clock wait
  return some wait

variable {ε σ α : Type}

/-- Runs the operation until it succeeds, fails for good, or has been run once more than `spare`
times. Where there is no wait before another run, or none that can be slept, that is the failure. -/
def retrying (p : RetryPolicy) (clock : Clock) (transient : ε → Bool) (ofWaitFault : WaitFault → ε)
    (slept : Float → σ → σ) (run : EStateM ε σ α) :
    (spare : Nat) → (attempt : Nat) → EStateM ε σ α
  | 0, _ => run
  | spare + 1, attempt => fun s =>
    match run s with
    | .ok a s => .ok a s
    | .error e s =>
      if transient e then
        match p.rest clock attempt with
        | .error f => .error (ofWaitFault f) s
        | .ok wait =>
          retrying p clock transient ofWaitFault slept run spare (attempt + 1)
            (wait.elim s fun w => slept w s)
      else .error e s

def call (p : RetryPolicy) (clock : Clock) (transient : ε → Bool) (ofWaitFault : WaitFault → ε)
    (slept : Float → σ → σ) (run : EStateM ε σ α) : EStateM ε σ α :=
  retrying p clock transient ofWaitFault slept run (p.attempts - 1) 1

def WaitFault.message : WaitFault → String
  | .zeroToNegativePower => "0.0 cannot be raised to a negative power"
  | .powerTooLarge => "(34, 'Numerical result out of range')"
  | .exponentTooLarge => "int too large to convert to float"
  | .notANumber => "Invalid value NaN (not a number)"
  | .tooLong => "timestamp out of range for platform time_t"
  | .negative => "sleep length must be non-negative"

end RetryPolicy
end Revocation
