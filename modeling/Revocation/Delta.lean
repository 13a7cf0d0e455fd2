import Revocation.Failure
import Revocation.IndexSet

/-!
One step of a registry: the indices that it put in and took out between two checkpoints, values that
are only compared here. Also chains of such steps, and the one step that has the effect of a chain.
-/
namespace Revocation

structure Delta (V : Type) where
  source : V
  target : V
  issued : IndexSet
  revoked : IndexSet
  disjoint : ∀ i, i ∈ issued → ¬ i ∈ revoked
deriving DecidableEq

namespace Delta

variable {V : Type}

def ofSets (source target : V) (issued revoked : IndexSet) : Except Failure (Delta V) :=
  if h : (issued.inter revoked).isEmpty then
    .ok {
      source, target, issued, revoked
      disjoint := fun i hi hr => IndexSet.isEmpty_iff.mp h i (IndexSet.mem_inter.mpr ⟨hi, hr⟩) }
  else .error (.inconsistent (.overlap (issued.inter revoked).toList))

/-- Where the first delta of a chain with a gap behind it stands. -/
def gap? [DecidableEq V] : (position : Nat) → List (Delta V) → Option Nat
  | p, d :: e :: rest => if d.target = e.source then gap? (p + 1) (e :: rest) else some p
  | _, _ => none

/-- The last of a chain that starts with the given delta. -/
def last (first : Delta V) (rest : List (Delta V)) : Delta V :=
  (first :: rest).getLast (List.cons_ne_nil first rest)

/-- Each delta starts where the one before it ends, and the chain lies between the given ends. -/
def checkChain [DecidableEq V] (deltas : List (Delta V)) (start finish : Option V) :
    Except Failure Unit :=
  match deltas with
  | [] =>
    if start.isSome ∧ finish.isSome ∧ start ≠ finish then
      .error (.inconsistent .emptyBetweenDistinct)
    else .ok ()
  | first :: rest =>
    if start.any (· ≠ first.source) then .error (.inconsistent .wrongStart)
    else match gap? 0 (first :: rest) with
      | some p => .error (.inconsistent (.broken p))
      | none =>
        if finish.any (· ≠ (last first rest).target) then .error (.inconsistent .wrongEnd)
        else .ok ()

def issuedBy (deltas : List (Delta V)) : IndexSet := deltas.foldl (fun s d => s.union d.issued) ∅

def revokedBy (deltas : List (Delta V)) : IndexSet := deltas.foldl (fun s d => s.union d.revoked) ∅

/-- The net effect of a chain. An index that it puts in and takes out has no place in one delta. -/
def compose [DecidableEq V] : List (Delta V) → Except Failure (Delta V)
  | [] => .error .nothingToCompose
  | first :: rest => do
    checkChain (first :: rest) none none
    ofSets first.source (last first rest).target (issuedBy (first :: rest))
      (revokedBy (first :: rest))

end Delta
end Revocation
