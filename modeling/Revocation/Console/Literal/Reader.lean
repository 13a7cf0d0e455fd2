import Std.Data.HashMap
import Revocation.Console.Literal.Expression
import Revocation.Console.Literal.Token

/-!
Readers of tokens. A reader finds something and goes on behind it, or finds nothing, or shows a
fault, which ends all reading. Of two readers the second is tried where the first finds nothing,
and what a rule has found at a place is kept.
-/
namespace Revocation.Console.Literal

/-- The rules whose finds are kept. -/
inductive Rule
  | expression | starExpression | disjunction | conjunction | inversion | bitwise | factor | awaited
  | primary | arguments | target | targetAtom | targetPrimary | misnamed
deriving DecidableEq, Hashable

structure Source where
  tokens : Array Token
  ending : Ending
  /-- Whether to look for what is wrong. -/
  searching : Bool

/-- What rules have found, and where it ends, by rule and place. -/
abbrev Finds := Std.HashMap (Rule × Nat) (Option (Expression × Nat))

def Reader (α : Type) : Type := Source → Nat → Finds → Except Fault (Option (α × Nat) × Finds)

namespace Reader

variable {α β : Type}

def andThen (x : Reader α) (f : α → Reader β) : Reader β := fun s place known =>
  match x s place known with
  | .error e => .error e
  | .ok (none, known) => .ok (none, known)
  | .ok (some (a, place), known) => f a s place known

instance : Monad Reader where
  pure a := fun _ place known => .ok (some (a, place), known)
  bind := andThen

instance : OrElse (Reader α) where
  orElse x y := fun s place known =>
    match x s place known with
    | .error e => .error e
    | .ok (none, known) => y () s place known
    | r => r

def nothing : Reader α := fun _ _ known => .ok (none, known)

def fault (f : Fault) : Reader α := fun _ _ _ => .error f

def optional (x : Reader α) : Reader (Option α) := (some <$> x) <|> pure none

/-- Looks for something and stays before it. -/
def ahead (x : Reader α) : Reader Unit := fun s place known =>
  match x s place known with
  | .error e => .error e
  | .ok (found, known) => .ok (found.map fun _ => ((), place), known)

def notAhead (x : Reader α) : Reader Unit := fun s place known =>
  match x s place known with
  | .error e => .error e
  | .ok (some _, known) => .ok (none, known)
  | .ok (none, known) => .ok (some ((), place), known)

def upTo (x : Reader α) : Nat → Reader (List α)
  | 0 => pure []
  | n + 1 => (do let a ← x; return a :: (← upTo x n)) <|> pure []

/-- As many as there are; no more than there are tokens. -/
def many (x : Reader α) : Reader (List α) := fun s place known =>
  upTo x s.tokens.size s place known

def several (x : Reader α) : Reader (List α) := do return (← x) :: (← many x)

/-- Only where faults are looked for. -/
def searching (x : Reader α) : Reader α := fun s place known =>
  if s.searching then x s place known else .ok (none, known)

/-- As where no faults are looked for. -/
def unsearching (x : Reader α) : Reader α := fun s place known =>
  x { s with searching := false } place known

def next : Reader Token := fun s place known =>
  match s.tokens[place]?, s.ending with
  | some t, _ => .ok (some (t, place + 1), known)
  | none, .pending f => .error f
  | none, _ => .ok (none, known)

def theEnd : Reader Unit := notAhead next

/-- How many brackets are open before the place. -/
def depth : Reader Nat := fun s place known =>
  let before := s.tokens.toList.take place
  let count (signs : List String) := (before.filter fun t => signs.any fun w => t = .sign w).length
  .ok (some (count ["(", "\x7b"] - count [")", "\x7d"], place), known)

def tokenThat (accepts : Token → Bool) : Reader Token := do
  let t ← next
  if accepts t then return t else nothing

def mark (w : String) : Reader Unit := do let _ ← tokenThat (· = .sign w)

def anyMark (ws : List String) : Reader String := do
  match ← next with
  | .sign w => if ws.contains w then return w else nothing
  | _ => nothing

def keyword (w : String) : Reader Unit := do let _ ← tokenThat (· = .name w)

/-- One, or more with commas between them. -/
def separated (x : Reader α) : Reader (List α) := do
  return (← x) :: (← many (do mark ","; x))

/-- What the rule finds, looked for once. -/
def kept (r : Rule) (x : Reader Expression) : Reader Expression := fun s place known =>
  match known[(r, place)]? with
  | some found => .ok (found, known)
  | none =>
    match x s place known with
    | .error e => .error e
    | .ok (found, known) => .ok (found, known.insert (r, place) found)

end Reader
end Revocation.Console.Literal
