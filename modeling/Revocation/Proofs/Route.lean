import Revocation.Proofs.Refresh

/-!
Where a witness comes from does not show. Whatever answers a witness has verified it last, against
the value that it answers with, so the witness is the quotient of that value by the entry of its
index, and of such quotients there is one if the entry has an inverse. Main statements:
`recompute_eq_ok`, which says all that an update does when it succeeds, and `Settled.eq`.
-/
namespace Revocation

namespace Witness

variable {σ : Type} {m : Modulus} {entry : Int → Int} {tails : TailsSource σ} {w w' : Witness}
  {value : Int} {s t : σ}

theorem completed_eq_ok (hc : tails.Gives w.index (entry w.index))
    (h : w.completed m tails s = .ok value t) : w.Valid m entry value := by
  obtain ⟨e, u, hfetch, hlast⟩ := Session.bind_eq_ok.mp h
  rw [hc s e u hfetch] at hlast
  cases hlast
  rfl

theorem verify_eq_ok (hc : tails.Gives w.index (entry w.index)) {r : Bool}
    (h : w.verify m tails value s = .ok r t) : r = decide (w.Valid m entry value) := by
  obtain ⟨v, u, hcompleted, hlast⟩ := Session.bind_eq_ok.mp h
  have hv : m.combine w.omega (entry w.index) = v := completed_eq_ok hc hcompleted
  cases hlast
  simp only [Valid, hv]

theorem verify_eq_error {e : Failure} (h : w.verify m tails value s = .error e t) :
    tails w.index s = .error e t := by
  rcases Session.bind_eq_error.mp h with h | ⟨_, _, -, h⟩
  · rcases Session.bind_eq_error.mp h with h | ⟨_, _, -, h⟩
    · exact h
    · cases h
  · cases h

theorem create_eq_ok {i : Int} {issued : List Int} {accumulator capacity : Int}
    (h : create m tails i issued accumulator capacity s = .ok w t) :
    w.index = i ∧ ∃ u u', tails.including m Modulus.identity
        ((IndexSet.ofList issued).erase i).toList s = .ok w.omega u ∧
      w.verify m tails accumulator u = .ok true u' := by
  obtain ⟨_, u, hrange, h⟩ := Session.bind_eq_ok.mp h
  cases hcheck : checkIndex i capacity with
  | error e =>
    rw [hcheck] at hrange
    cases hrange
  | ok _ =>
    rw [hcheck] at hrange
    cases hrange
    obtain ⟨omega, u, homega, h⟩ := Session.bind_eq_ok.mp h
    obtain ⟨r, u', hverify, h⟩ := Session.bind_eq_ok.mp h
    cases r with
    | false => cases h
    | true =>
      cases h
      exact ⟨rfl, u, t, homega, hverify⟩

/-- What has been verified against a value, by an element that is reduced. -/
structure Settled (m : Modulus) (entry : Int → Int) (w : Witness) (value : Int) : Prop where
  residue : m.IsResidue w.omega
  valid : w.Valid m entry value

/-- There is one quotient of a value by an entry that can be inverted. -/
theorem Settled.eq (h : w.Settled m entry value) (h' : w'.Settled m entry value)
    (hindex : w.index = w'.index) (hunit : IsCoprime (entry w.index) m.value) : w = w' := by
  have hproduct : (w.omega : ZMod m.value) * entry w.index = w'.omega * entry w.index := by
    rw [← Modulus.cast_combine, h.valid, hindex, ← Modulus.cast_combine, h'.valid]
  have hcast := (Modulus.isUnit_cast_iff.mpr hunit).mul_right_cancel hproduct
  have homega : w.omega = w'.omega := h.residue.eq_of_cast h'.residue hcast
  calc w = ⟨w.index, w.omega⟩ := rfl
    _ = ⟨w'.index, w'.omega⟩ := by rw [hindex, homega]

theorem settled_of_create (hc : tails.Gives w.index (entry w.index)) {i : Int} {issued : List Int}
    {accumulator capacity : Int}
    (h : create m tails i issued accumulator capacity s = .ok w t) :
    w.Settled m entry accumulator := by
  obtain ⟨-, u, u', homega, hverify⟩ := create_eq_ok h
  have hvalid := verify_eq_ok hc hverify
  exact ⟨TailsSource.isResidue_including m.isResidue_identity homega,
    of_decide_eq_true hvalid.symm⟩

end Witness

namespace Recomputer

variable {σ : Type} {c : Recomputer σ} {entry : Int → Int} {w w' : Witness}
  {accumulator : Option Int} {ds : List (Delta Int)} {value : Int} {s t : σ}

theorem isResidue_absorb {omega omega' : Int} {d : Delta Int} (ho : c.modulus.IsResidue omega)
    (h : c.absorb omega d s = .ok omega' t) : c.modulus.IsResidue omega' := by
  obtain ⟨v, u, hout, hin⟩ := Session.bind_eq_ok.mp h
  exact TailsSource.isResidue_including (TailsSource.isResidue_excluding ho hout) hin

theorem isResidue_foldlM_absorb {omega omega' : Int} (ho : c.modulus.IsResidue omega)
    (h : ds.foldlM c.absorb omega s = .ok omega' t) : c.modulus.IsResidue omega' :=
  Session.foldlM_keeps (fun _ _ _ _ _ ho => isResidue_absorb ho) ho h

/-- An update that succeeds has checked the chain and its mentions of the own index, has absorbed
every delta, and has completed what came of it to the value that the chain leads to. -/
theorem recompute_eq_ok (h : c.recompute w accumulator ds s = .ok (w', value) t) :
    Delta.checkChain ds accumulator none = .ok () ∧ checkOwn c.registry w.index ds = .ok () ∧
      w'.index = w.index ∧ target accumulator ds = some value ∧
      ∃ u, ds.foldlM c.absorb w.omega s = .ok w'.omega u ∧
        w'.completed c.modulus c.tails u = .ok value t := by
  cases hchain : Delta.checkChain ds accumulator none with
  | error e =>
    rw [recompute, hchain, Session.bind_of_error (Session.ofExcept_error e s)] at h
    cases h
  | ok _ =>
    rw [recompute, hchain, Session.bind_of_ok (Session.ofExcept_ok _ s)] at h
    cases hown : checkOwn c.registry w.index ds with
    | error e =>
      rw [hown, Session.bind_of_error (Session.ofExcept_error e s)] at h
      cases h
    | ok _ =>
      rw [hown, Session.bind_of_ok (Session.ofExcept_ok _ s)] at h
      obtain ⟨omega, u, homega, h⟩ := Session.bind_eq_ok.mp h
      obtain ⟨reached, u', hcompleted, h⟩ := Session.bind_eq_ok.mp h
      -- The witness is answered only where it has been completed to the target.
      split at h
      · next htarget =>
        cases h
        exact ⟨rfl, rfl, rfl, htarget, u, homega, hcompleted⟩
      · cases h

theorem valid_of_recompute (hc : c.tails.Gives w.index (entry w.index))
    (h : c.recompute w accumulator ds s = .ok (w', value) t) : w'.Valid c.modulus entry value := by
  obtain ⟨-, -, hindex, -, u, -, hcompleted⟩ := recompute_eq_ok h
  rw [← hindex] at hc
  exact Witness.completed_eq_ok hc hcompleted

/-- An update without deltas hands the element on as it is, so it must have been reduced before. -/
theorem settled_of_recompute (hc : c.tails.Gives w.index (entry w.index))
    (hw : c.modulus.IsResidue w.omega) (h : c.recompute w accumulator ds s = .ok (w', value) t) :
    w'.Settled c.modulus entry value := by
  obtain ⟨-, -, -, -, u, homega, -⟩ := recompute_eq_ok h
  have hresidue := isResidue_foldlM_absorb hw homega
  exact ⟨hresidue, valid_of_recompute hc h⟩

theorem target_eq_or (accumulator : Option Int) (ds : List (Delta Int)) :
    target accumulator ds = (ds.getLast?.map Delta.target).or accumulator := by
  rw [target]
  cases ds.getLast? <;> rfl

end Recomputer

namespace RevocableBinding

variable {σ : Type} {c : Recomputer σ} {b b' : RevocableBinding} {ledger : LedgerSource σ}
  {target : Option Int} {s t : σ}

theorem refresh_of_head_error {e : Failure} (h : ledger.head s = .error e t) :
    b.refresh c ledger none s = .error e t :=
  Session.bind_of_error h _

/-- The value that a refresh is to reach, and the state in which that is known. -/
def Aims (ledger : LedgerSource σ) (target : Option Int) (s : σ) (value : Int) (t : σ) : Prop :=
  match target with
  | some v => v = value ∧ s = t
  | none => ledger.head s = .ok value t

theorem refresh_of_aims {value : Int} {u : σ} (ha : Aims ledger target s value u) :
    b.refresh c ledger target s = b.refresh c ledger (some value) u := by
  cases target with
  | some v =>
    obtain ⟨rfl, rfl⟩ := ha
    rfl
  | none => exact refresh_none ha

theorem exists_aims_or_error (ledger : LedgerSource σ) (target : Option Int) (s : σ) :
    (∃ value u, Aims ledger target s value u) ∨
      ∃ e u, target = none ∧ ledger.head s = .error e u := by
  cases target with
  | some value => exact .inl ⟨value, s, rfl, rfl⟩
  | none =>
    cases hhead : ledger.head s with
    | error e u => exact .inr ⟨e, u, rfl, rfl⟩
    | ok value u => exact .inl ⟨value, u, hhead⟩

/-- A refresh that succeeds is an update over the deltas that lead to where it aims. -/
theorem exists_steps_of_refresh (h : b.refresh c ledger target s = .ok b' t) :
    ∃ value ds u u', Aims ledger target s value u ∧
      ledger.between b.reference value u = .ok ds u' ∧
      c.recompute b.witness (some b.reference) ds u' = .ok (b'.witness, b'.reference) t ∧
      b'.registryId = b.registryId := by
  obtain ⟨value, u, haims⟩ | ⟨e, u, rfl, hhead⟩ := exists_aims_or_error ledger target s
  case inr =>
    rw [refresh_of_head_error hhead] at h
    cases h
  rw [refresh_of_aims haims] at h
  cases hb : ledger.between b.reference value u with
  | error e u' =>
    rw [refresh_of_between_error hb] at h
    cases h
  | ok ds u' =>
    cases hr : c.recompute b.witness (some b.reference) ds u' with
    | error e u'' =>
      rw [refresh_eq_error hb hr] at h
      cases h
    | ok x u'' =>
      rw [refresh_eq_ok hb hr] at h
      cases h
      exact ⟨value, ds, u, u', haims, hb, hr, rfl⟩

theorem exists_recompute_of_refresh (h : b.refresh c ledger target s = .ok b' t) :
    ∃ ds u, c.recompute b.witness (some b.reference) ds u = .ok (b'.witness, b'.reference) t := by
  obtain ⟨-, ds, -, u, -, -, hrecompute, -⟩ := exists_steps_of_refresh h
  exact ⟨ds, u, hrecompute⟩

end RevocableBinding

/-- That one operation brings a witness to another one, and to the value that this is for. -/
inductive Recomputer.Updates {σ : Type} (c : Recomputer σ) (w : Witness) : Witness → Int → Prop
  | recompute {accumulator : Option Int} {ds : List (Delta Int)} {s t : σ} {w' : Witness}
      {value : Int} (h : c.recompute w accumulator ds s = .ok (w', value) t) : Updates c w w' value
  | refresh {b b' : RevocableBinding} {ledger : LedgerSource σ} {target : Option Int} {s t : σ}
      (hb : b.witness = w) (h : b.refresh c ledger target s = .ok b' t) :
      Updates c w b'.witness b'.reference

/-- The witnesses for an index that can be had, each with the value that it is for: from what is
issued, or from any witness whose element is reduced, by any number of updates. The deltas may come
from anywhere, and each step may have a source and a ledger of its own. -/
inductive Route (m : Modulus) (entry : Int → Int) (i : Int) : Witness → Int → Prop
  | create {σ : Type} {tails : TailsSource σ} {issued : List Int} {accumulator capacity : Int}
      {s t : σ} {w : Witness} (hc : tails.Gives i (entry i))
      (h : Witness.create m tails i issued accumulator capacity s = .ok w t) :
      Route m entry i w accumulator
  | start {σ : Type} {c : Recomputer σ} {w w' : Witness} {value : Int} (hm : c.modulus = m)
      (hc : c.tails.Gives i (entry i)) (hi : w.index = i) (hw : m.IsResidue w.omega)
      (h : c.Updates w w' value) : Route m entry i w' value
  | next {σ : Type} {c : Recomputer σ} {w w' : Witness} {value value' : Int} (hm : c.modulus = m)
      (hc : c.tails.Gives i (entry i)) (before : Route m entry i w value)
      (h : c.Updates w w' value') : Route m entry i w' value'

namespace Route

variable {σ : Type} {m : Modulus} {entry : Int → Int} {i value : Int} {w w' : Witness}
  {c : Recomputer σ}

theorem settled_of_updates (hc : c.tails.Gives w.index (entry w.index))
    (hw : c.modulus.IsResidue w.omega) (h : c.Updates w w' value) :
    w'.index = w.index ∧ w'.Settled c.modulus entry value := by
  cases h with
  | recompute h =>
    obtain ⟨-, -, hindex, -⟩ := Recomputer.recompute_eq_ok h
    exact ⟨hindex, Recomputer.settled_of_recompute hc hw h⟩
  | refresh hb h =>
    subst hb
    obtain ⟨ds, u, hrecompute⟩ := RevocableBinding.exists_recompute_of_refresh h
    obtain ⟨-, -, hindex, -⟩ := Recomputer.recompute_eq_ok hrecompute
    exact ⟨hindex, Recomputer.settled_of_recompute hc hw hrecompute⟩

theorem settled (h : Route m entry i w value) : w.index = i ∧ w.Settled m entry value := by
  induction h with
  | create hc h =>
    obtain ⟨hindex, -⟩ := Witness.create_eq_ok h
    refine ⟨hindex, Witness.settled_of_create ?_ h⟩
    rwa [hindex]
  | start hm hc hi hw h =>
    subst hm hi
    exact settled_of_updates hc hw h
  | next hm hc before h ih =>
    obtain ⟨hi, hsettled⟩ := ih
    subst hm hi
    exact settled_of_updates hc hsettled.residue h

/-- An update that succeeds answers a witness that is valid for where the deltas end, whatever these
say; and whichever way a witness has come to a value, it is the same one, if the entry of its index
can be inverted. -/
theorem eq_of_route (m : Modulus) (entry : Int → Int) (i : Int) :
    (∀ (σ : Type) (c : Recomputer σ) w accumulator ds s w' value t, c.modulus = m →
      c.tails.Gives i (entry i) → w.index = i →
      c.recompute w accumulator ds s = .ok (w', value) t →
        w'.index = i ∧ (ds.getLast?.map Delta.target).or accumulator = some value ∧
          w'.Valid m entry value ∧
          ∀ s' r t', w'.verify m c.tails value s' = .ok r t' → r = true) ∧
    (IsCoprime (entry i) m.value → ∀ w w' value, Route m entry i w value →
      Route m entry i w' value → w = w') := by
  constructor
  · intro σ c w accumulator ds s w' value t hm hc hi h
    subst hm hi
    obtain ⟨-, -, hindex, htarget, -⟩ := Recomputer.recompute_eq_ok h
    have hvalid := Recomputer.valid_of_recompute hc h
    rw [Recomputer.target_eq_or] at htarget
    refine ⟨hindex, htarget, hvalid, fun s' r t' hverify => ?_⟩
    rw [← hindex] at hc
    rw [Witness.verify_eq_ok hc hverify, decide_eq_true hvalid]
  · intro hunit w w' value h h'
    obtain ⟨hi, hsettled⟩ := h.settled
    obtain ⟨hi', hsettled'⟩ := h'.settled
    rw [← hi] at hunit
    exact hsettled.eq hsettled' (hi.trans hi'.symm) hunit

/-- Modulo 15: made from what is issued while one entry is withheld, and brought along forged deltas
in two steps. -/
theorem eq_of_route_fifteen :
    let m : Modulus := ⟨15, by decide⟩
    let entry := TailsSource.entryIn [2, 4, 7]
    let c : Recomputer TailsSource.Watch := ⟨m, TailsSource.watched [2, 4, 7], none⟩
    let first : Delta Int := ⟨99, 8, .ofList [2], ∅, by simp⟩
    let second : Delta Int := ⟨-1, 14, .ofList [3], .ofList [2], by decide⟩
    c.tails.Gives 1 (entry 1) ∧ IsCoprime (entry 1) m.value ∧ ∃ w w' : Witness,
      (∃ u, c.recompute ⟨1, 1⟩ (some 99) [first] ⟨[], []⟩ = .ok (⟨1, 4⟩, 8) u) ∧
      (∃ u, c.recompute ⟨1, 4⟩ (some (-1)) [second] ⟨[], []⟩ = .ok (w, 14) u) ∧
      (∃ u, Witness.create m c.tails 1 [1, 3] 14 3 ⟨[], [2]⟩ = .ok w' u) ∧
      w.Valid m entry 14 ∧ w = w' := by
  intro m entry c first second
  have hc : c.tails.Gives 1 (entry 1) :=
    (TailsSource.watched_consistent [2, 4, 7]).gives (by decide)
  have hunit : IsCoprime (entry 1) m.value :=
    Int.isCoprime_iff_gcd_eq_one.mpr (by decide +kernel)
  obtain ⟨u₁, hfirst⟩ : ∃ u, c.recompute ⟨1, 1⟩ (some 99) [first] ⟨[], []⟩ = .ok (⟨1, 4⟩, 8) u :=
    Session.outcome_eq_ok.mp (by decide +kernel)
  obtain ⟨u₂, hsecond⟩ :
      ∃ u, c.recompute ⟨1, 4⟩ (some (-1)) [second] ⟨[], []⟩ = .ok (⟨1, 7⟩, 14) u :=
    Session.outcome_eq_ok.mp (by decide +kernel)
  obtain ⟨u₃, hcreate⟩ : ∃ u, Witness.create m c.tails 1 [1, 3] 14 3 ⟨[], [2]⟩ = .ok ⟨1, 7⟩ u :=
    Session.outcome_eq_ok.mp (by decide +kernel)
  obtain ⟨hverified, hsame⟩ := eq_of_route m entry 1
  obtain ⟨-, -, hvalid, -⟩ := hverified _ c ⟨1, 4⟩ _ _ _ _ _ _ rfl hc rfl hsecond
  have hlong : Route m entry 1 ⟨1, 7⟩ 14 :=
    .next rfl hc (.start rfl hc rfl ⟨by decide, by decide⟩ (.recompute hfirst)) (.recompute hsecond)
  have hshort : Route m entry 1 ⟨1, 7⟩ 14 := .create hc hcreate
  exact ⟨hc, hunit, _, _, ⟨u₁, hfirst⟩, ⟨u₂, hsecond⟩, ⟨u₃, hcreate⟩, hvalid,
    hsame hunit _ _ 14 hlong hshort⟩

end Route
end Revocation
