import Revocation.Delta

/-!
The published history of a registry: one unbroken chain of deltas, of which the newest are kept, up
to a limit. Positions count from the first delta ever published, so they outlast the deltas that
are let go. Main operations: `append`, and `between`, which finds the shortest stretch that leads
from one checkpoint to another, the latest one of several.
-/
namespace Revocation

/-- Positions by checkpoint value. -/
abbrev Positions (V : Type) := List (V × List Nat)

namespace Positions

variable {V : Type} [DecidableEq V]

def add (v : V) (p : Nat) : Positions V → Positions V
  | [] => [(v, [p])]
  | (w, ps) :: rest => if w = v then (w, ps ++ [p]) :: rest else (w, ps) :: add v p rest

def get (v : V) (ps : Positions V) : List Nat := (List.lookup v ps).getD []

/-- The positions of the deltas by the value that `key` takes from them, counted from `base`. -/
def ofDeltas (key : Delta V → V) (base : Nat) (deltas : List (Delta V)) : Positions V :=
  (deltas.zipIdx base).foldl (fun ps (d, p) => add (key d) p ps) []

end Positions

structure Ledger (V : Type) where
  /-- How many deltas are kept; all of them where there is no limit. -/
  limit : Option Nat
  head : V
  /-- How many deltas have been let go. -/
  base : Nat
  deltas : List (Delta V)
  leaving : Positions V
  reaching : Positions V
  limit_pos : ∀ n ∈ limit, 0 < n

namespace Ledger

variable {V : Type} [DecidableEq V]

def start (initial : V) (limit : Option Int) : Except Failure (Ledger V) :=
  match limit with
  | none => .ok ⟨none, initial, 0, [], [], [], by simp⟩
  | some n =>
    if h : 0 < n.toNat then .ok ⟨some n.toNat, initial, 0, [], [], [], by simpa using h⟩
    else .error .historyNotPositive

def length (l : Ledger V) : Nat := l.deltas.length

/-- How many of `n` deltas are too many. -/
def excess (limit : Option Nat) (n : Nat) : Nat :=
  match limit with
  | none => 0
  | some k => n - k

/-- Publishes a delta that starts at the head. -/
def append (l : Ledger V) (d : Delta V) : Except Failure (Ledger V) :=
  if d.source = l.head then
    let deltas := l.deltas ++ [d]
    let pruned := excess l.limit deltas.length
    let base := l.base + pruned
    let kept := deltas.drop pruned
    .ok ⟨l.limit, d.target, base, kept, Positions.ofDeltas Delta.source base kept,
      Positions.ofDeltas Delta.target base kept, l.limit_pos⟩
  else .error (.inconsistent .notAtHead)

def knows (l : Ledger V) (v : V) : Bool :=
  v = l.head || (List.lookup v l.leaving).isSome || (List.lookup v l.reaching).isSome

/-- From each position in `starts` to the first of `ends` that does not lie before it. -/
def spans (starts ends : List Nat) : List (Nat × Nat) :=
  starts.filterMap fun p => (ends.find? (p ≤ ·)).map (p, ·)

/-- The shortest span; of equally short ones the last. -/
def shortest : List (Nat × Nat) → Option (Nat × Nat)
  | [] => none
  | s :: rest =>
    match shortest rest with
    | none => some s
    | some t => if s.2 - s.1 < t.2 - t.1 then some s else some t

/-- The deltas that lead from one retained checkpoint to another. -/
def between (l : Ledger V) (source target : V) : Except Failure (List (Delta V)) :=
  if !l.knows source then .error (.unknownState .source)
  else if !l.knows target then .error (.unknownState .target)
  else if source = target then .ok []
  else
    let starts := Positions.get source l.leaving
    let ends := Positions.get target l.reaching
    match shortest (spans starts ends) with
    | none => .error (.unknownState .unconnected)
    | some (p, q) => .ok ((l.deltas.drop (p - l.base)).take (q - p + 1))

end Ledger

/-- Wherever published history is to be had. -/
structure LedgerSource (σ : Type) where
  head : Session σ Int
  between : (source target : Int) → Session σ (List (Delta Int))

/-- A source that keeps its state beside another one. -/
def LedgerSource.inner {ρ σ : Type} (ledger : LedgerSource σ) : LedgerSource (ρ × σ) where
  head := Session.inner ledger.head
  between := fun source target => Session.inner (ledger.between source target)

/-- History from the ledger itself. -/
def Ledger.service {σ : Type} (l : Ledger Int) : LedgerSource σ where
  head := return l.head
  between := fun source target => Session.ofExcept (l.between source target)

end Revocation
