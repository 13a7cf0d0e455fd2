import Mathlib.Data.List.Chain
import Revocation.Proofs.Ledger
import Revocation.Proofs.Session

/-!
Ledgers to which deltas are submitted one after the other, whether they fit or not. Main statements:
`submit_cases`, by which a ledger takes a delta exactly at its head, `records_submitAll`, by which
only what it takes leaves a trace, and `Records.retains`, which says what is kept of that.
-/
namespace Revocation

variable {V : Type}

theorem Delta.Linked.isChain {start : V} {ds : List (Delta V)} (h : Delta.Linked start ds) :
    ds.IsChain fun d e => d.target = e.source := by
  induction ds generalizing start with
  | nil => exact .nil
  | cons d ds ih =>
    cases ds with
    | nil => exact .singleton d
    | cons e ds => exact .cons_cons h.2.1.symm (ih h.2)

theorem Delta.finish_eq_getLast? (start : V) (ds : List (Delta V)) :
    finish start ds = (ds.getLast?.map Delta.target).getD start := by
  cases ds with
  | nil => rfl
  | cons d ds =>
    rw [← last_target, last, List.getLast?_eq_some_getLast (List.cons_ne_nil d ds)]
    rfl

theorem Ledger.exists_start (initial : V) {limit : Option Int} (hlimit : ∀ n ∈ limit, 1 ≤ n) :
    ∃ l, Ledger.start initial limit = .ok l := by
  cases limit with
  | none => exact ⟨_, rfl⟩
  | some n =>
    have hn : 0 < n.toNat := by
      have := hlimit n rfl
      omega
    rw [Ledger.start, dif_pos hn]
    exact ⟨_, rfl⟩

theorem Ledger.limit_of_start {initial : V} {limit : Option Int} {l : Ledger V}
    (h : Ledger.start initial limit = .ok l) :
    l.limit = limit.map Int.toNat ∧ ∀ n ∈ limit, 1 ≤ n := by
  cases limit with
  | none =>
    cases h
    exact ⟨rfl, by simp⟩
  | some n =>
    rw [Ledger.start] at h
    split at h
    · cases h
      refine ⟨rfl, fun k hk => ?_⟩
      cases hk
      omega
    · cases h

variable [DecidableEq V]

namespace Positions

/-- The positions of a value come in ascending order, and they are those of its deltas. -/
structure Lists (ps : List Nat) (key : Delta V → V) (base : Nat) (deltas : List (Delta V)) (v : V) :
    Prop where
  ascending : ps.Pairwise (· < ·)
  mem : ∀ p, p ∈ ps ↔ ∃ k d, p = base + k ∧ deltas[k]? = some d ∧ key d = v

theorem lists_ofDeltas (key : Delta V → V) (base : Nat) (deltas : List (Delta V)) (v : V) :
    Lists (get v (ofDeltas key base deltas)) key base deltas v := by
  constructor
  · rw [get_ofDeltas]
    have hall : ((deltas.zipIdx base).map Prod.snd).Pairwise (· < ·) := by
      rw [List.zipIdx_map_snd]
      exact List.pairwise_lt_range'
    exact hall.sublist (List.filter_sublist.map Prod.snd)
  · intro p
    rw [mem_get_ofDeltas]
    constructor
    · rintro ⟨hp, d, hd, hv⟩
      exact ⟨p - base, d, (Nat.add_sub_cancel' hp).symm, hd, hv⟩
    · rintro ⟨k, d, rfl, hd, hv⟩
      exact ⟨Nat.le_add_right base k, d, by rwa [Nat.add_sub_cancel_left], hv⟩

end Positions

namespace Ledger

variable {l l' : Ledger V} {initial : V} {limit : Option Int} {all : List (Delta V)} {d : Delta V}

/-- Publishes a delta on the ledger at hand. -/
def submit (d : Delta V) : Session (Ledger V) Unit := do
  let l ← get
  set (← Session.ofExcept (l.append d))

/-- The ledger after any deltas, whatever has come of each of them. -/
def submitAll (ds : List (Delta V)) (l : Ledger V) : Ledger V :=
  ds.foldl (fun l d => (submit d).after l) l

/-- Those of the deltas that the ledger takes. -/
def accepted (l : Ledger V) : List (Delta V) → List (Delta V)
  | [] => []
  | d :: ds =>
    match submit d l with
    | .ok _ l' => d :: accepted l' ds
    | .error _ l' => accepted l' ds

/-- A delta is taken if it starts at the head; any other one changes nothing. -/
theorem submit_cases (l : Ledger V) (d : Delta V) :
    d.source = l.head ∧ (∃ l', l.append d = .ok l' ∧ submit d l = .ok () l') ∨
      d.source ≠ l.head ∧ submit d l = .error (.inconsistent .notAtHead) l := by
  simp only [submit, Session.bind_apply, Session.get_apply]
  by_cases h : d.source = l.head
  · left
    rw [append, if_pos h]
    exact ⟨h, _, rfl, rfl⟩
  · right
    rw [append, if_neg h]
    exact ⟨h, rfl⟩

theorem submit_eq_ok_iff (l : Ledger V) (d : Delta V) :
    (∃ l', submit d l = .ok () l') ↔ d.source = l.head := by
  rcases submit_cases l d with ⟨h, l', -, hl'⟩ | ⟨h, herror⟩
  · exact ⟨fun _ => h, fun _ => ⟨l', hl'⟩⟩
  · simp [h, herror]

theorem records_submitAll (h : l.Records initial all) (ds : List (Delta V)) :
    (submitAll ds l).Records initial (all ++ accepted l ds) ∧ (submitAll ds l).limit = l.limit := by
  induction ds generalizing l all with
  | nil =>
    rw [accepted, List.append_nil]
    exact ⟨h, rfl⟩
  | cons d ds ih =>
    rw [submitAll, List.foldl_cons, ← submitAll, accepted]
    rcases submit_cases l d with ⟨-, l', ha, hl'⟩ | ⟨-, herror⟩
    · obtain ⟨hrecords, hlimit⟩ := ih (h.append ha)
      rw [Session.after_of_ok hl', hl']
      simp only
      rw [← List.append_cons] at hrecords
      exact ⟨hrecords, hlimit.trans (limit_of_append ha)⟩
    · -- The ledger is the same as before, so nothing is added to its history.
      rw [Session.after_of_error herror, herror]
      exact ih h

/-- What a ledger with this limit keeps of all the deltas that it has taken. -/
structure Retains (l : Ledger V) (initial : V) (limit : Option Int) (all : List (Delta V)) :
    Prop where
  newest : l.deltas <:+ all
  length : (l.length : Int) = limit.elim (all.length : Int) (min all.length)
  base : l.base + l.length = all.length
  linked : l.deltas.IsChain fun d e => d.target = e.source
  head : l.head = (all.getLast?.map Delta.target).getD initial
  leaving : ∀ v, Positions.Lists (Positions.get v l.leaving) Delta.source l.base l.deltas v
  reaching : ∀ v, Positions.Lists (Positions.get v l.reaching) Delta.target l.base l.deltas v
  known : ∀ v, l.knows v ↔ v = l.head ∨ ∃ d, d ∈ l.deltas ∧ (d.source = v ∨ d.target = v)

theorem Records.retains (h : l.Records initial all) (hlimit : l.limit = limit.map Int.toNat)
    (hpos : ∀ n ∈ limit, 1 ≤ n) : l.Retains initial limit all := by
  have hle : l.base ≤ all.length := h.base ▸ excess_le l.limit all.length
  have hlength : l.length = all.length - l.base := by
    rw [length, h.deltas, List.length_drop]
  have hsplit : all = all.take l.base ++ l.deltas := by
    rw [h.deltas, List.take_append_drop]
  have hlinked := h.linked
  rw [hsplit, Delta.linked_append] at hlinked
  refine ⟨⟨_, hsplit.symm⟩, ?_, by omega, hlinked.2.isChain, ?_, ?_, ?_, ?_⟩
  · have hbase := h.base
    rw [hlimit] at hbase
    cases limit with
    | none =>
      simp only [Option.map_none, excess] at hbase
      simp only [Option.elim_none]
      omega
    | some n =>
      have := hpos n rfl
      simp only [Option.map_some, excess] at hbase
      simp only [Option.elim_some]
      omega
  · rw [h.head, Delta.finish_eq_getLast?]
  · intro v
    rw [h.leaving]
    exact Positions.lists_ofDeltas _ _ _ v
  · intro v
    rw [h.reaching]
    exact Positions.lists_ofDeltas _ _ _ v
  · intro v
    rw [knows_iff h]
    grind

/-- Whatever is submitted, a ledger keeps the newest of what it took, in one unbroken chain, with
the right positions of each value; it takes what starts at its head, and nothing else changes it. -/
theorem retains_submitAll (initial : V) (hlimit : ∀ n ∈ limit, 1 ≤ n) (ds : List (Delta V)) :
    ∃ l, start initial limit = .ok l ∧
      (submitAll ds l).Retains initial limit (accepted l ds) ∧
      ∀ d, ((∃ l', submit d (submitAll ds l) = .ok () l') ↔ d.source = (submitAll ds l).head) ∧
        (d.source ≠ (submitAll ds l).head →
          submit d (submitAll ds l) = .error (.inconsistent .notAtHead) (submitAll ds l)) := by
  obtain ⟨l, hl⟩ := exists_start initial hlimit
  obtain ⟨hrecords, hsame⟩ := records_submitAll (records_start hl) ds
  rw [List.nil_append] at hrecords
  have hretains := hrecords.retains (hsame.trans (limit_of_start hl).1) hlimit
  refine ⟨l, hl, hretains, fun d => ⟨submit_eq_ok_iff _ d, ?_⟩⟩
  intro hne
  rcases submit_cases (submitAll ds l) d with ⟨h, -⟩ | ⟨-, h⟩
  · exact (hne h).elim
  · exact h

/-- Two deltas are kept of the three that are taken; the value 2 is reached twice. -/
theorem retains_submitAll_two :
    let d (source target : Nat) : Delta Nat := ⟨source, target, ∅, ∅, by simp⟩
    let ds := [d 1 2, d 5 6, d 2 1, d 1 2]
    (∀ n ∈ some (2 : Int), 1 ≤ n) ∧ ∃ l, start 1 (some 2) = .ok l ∧
      accepted l ds = [d 1 2, d 2 1, d 1 2] ∧ (submitAll ds l).deltas = [d 2 1, d 1 2] ∧
        (submitAll ds l).Retains 1 (some 2) [d 1 2, d 2 1, d 1 2] := by
  intro d ds
  have hlimit : ∀ n ∈ some (2 : Int), 1 ≤ n := by decide
  have hs : start 1 (some 2) = .ok _ := rfl
  obtain ⟨l, hl, hretains, -⟩ := retains_submitAll 1 hlimit ds
  cases hs.symm.trans hl
  refine ⟨hlimit, _, hs, ?accepted, ?kept, hretains⟩
  case accepted => decide +kernel
  case kept => decide +kernel

end Ledger
end Revocation
