import Mathlib.Data.Finset.Powerset
import Revocation.Binding
import Revocation.Proofs.Recompute

/-!
Refreshing a binding from the registry's own ledger. Values repeat, so what the ledger answers may
be another stretch of the history than the one since the binding was made. Main statements:
`Sound.walk_of_between`, by which every answer leads from and to the same issued sets, and
`Sound.exists_between_head_iff`, by which the head is reached from whatever is still retained.
-/
namespace Revocation

namespace Modulus

variable {m : Modulus} {entry : Int → Int} {capacity : Nat}

/-- No two sets of indices have the same value. -/
def CollisionFree (m : Modulus) (entry : Int → Int) (capacity : Nat) : Prop :=
  ∀ s t : IndexSet, (∀ i, i ∈ s → i ∈ IndexSet.upTo capacity) →
    (∀ i, i ∈ t → i ∈ IndexSet.upTo capacity) →
      m.accumulated entry s = m.accumulated entry t → s = t

theorem collisionFree_of_powerset
    (h : ∀ A ∈ (IndexSet.upTo capacity).toFinset.powerset,
      ∀ B ∈ (IndexSet.upTo capacity).toFinset.powerset,
        (∏ i ∈ A, entry i) % m.value = (∏ i ∈ B, entry i) % m.value → A = B) :
    m.CollisionFree entry capacity := by
  intro s t hs ht heq
  rw [accumulated, accumulated, IndexSet.prod_map_toList, IndexSet.prod_map_toList] at heq
  have hset := h s.toFinset (Finset.mem_powerset.mpr hs) t.toFinset (Finset.mem_powerset.mpr ht) heq
  refine IndexSet.ext_mem fun i => ?_
  rw [← IndexSet.mem_toFinset, hset, IndexSet.mem_toFinset]

end Modulus

namespace Chronicle

open Checkpoint

variable {σ : Type} {m : Modulus} {entry : Int → Int} {capacity : Nat} {h : Chronicle σ}
  {x y z : Checkpoint} {j k : Nat}

theorem Sound.eq_issued (hs : Sound m entry capacity h) (hfree : m.CollisionFree entry capacity)
    (hx : h.checkpoints[k]? = some x) (hy : h.checkpoints[j]? = some y) (hv : x.value = y.value) :
    x.issued = y.issued := by
  have gx := hs.genuine x (List.mem_of_getElem? hx)
  have gy := hs.genuine y (List.mem_of_getElem? hy)
  rw [gx.value, gy.value] at hv
  exact hfree _ _ gx.inRange gy.inRange hv

/-- Whatever stretch a lookup answers, the same indices are issued at its ends as at the checkpoints
that were meant. -/
theorem Sound.walk_of_between (hs : Sound m entry capacity h)
    (hfree : m.CollisionFree entry capacity) (hx : h.checkpoints[k]? = some x)
    (hy : h.checkpoints[j]? = some y) {ds : List (Delta Int)}
    (hb : h.registry.ledger.between x.value y.value = .ok ds) :
    ∃ a b, Walk m entry capacity a ds b ∧ b.Genuine m entry capacity ∧
      a.value = x.value ∧ b.value = y.value ∧ a.issued = x.issued ∧ b.issued = y.issued ∧
      ∀ d, d ∈ ds → d ∈ h.deltas := by
  obtain ⟨c, -, hrecords⟩ := hs.records
  rcases Ledger.between_eq_ok hrecords hb with ⟨hv, rfl⟩ | ⟨p, q, hconnects, rfl⟩
  · have gx := hs.genuine x (List.mem_of_getElem? hx)
    exact ⟨x, x, .rest x, gx, rfl, hv, rfl, hs.eq_issued hfree hx hy hv, by simp⟩
  · -- The stretch has checkpoints of its own at its ends; only their values are those meant.
    obtain ⟨d, hd, hsource⟩ := hconnects.leaves
    obtain ⟨e, he, htarget⟩ := hconnects.reaches
    obtain ⟨a, _, ha, _, hstart⟩ := hs.advances p d hd
    obtain ⟨_, b, _, hb, hstop⟩ := hs.advances q e he
    have hav : a.value = x.value := hstart.source.symm.trans hsource
    have hbv : b.value = y.value := hstop.target.symm.trans htarget
    have hpq : p ≤ q + 1 := Nat.le_succ_of_le hconnects.ordered
    exact ⟨a, b, hs.walk hpq ha hb, hs.genuine b (List.mem_of_getElem? hb), hav, hbv,
      hs.eq_issued hfree ha hx hav, hs.eq_issued hfree hb hy hbv,
      fun _ => Ledger.mem_of_mem_stretch⟩

theorem Sound.value_eq (hs : Sound m entry capacity h) (hx : h.checkpoints[0]? = some x)
    (hy : h.checkpoints[j]? = some y) : y.value = Delta.finish x.value (h.deltas.take j) :=
  (hs.walk (Nat.zero_le j) hx hy).linked.2.symm

/-- The checkpoints that a lookup of the head finds a way from are those still retained. -/
theorem Sound.exists_between_head_iff (hs : Sound m entry capacity h) (v : Int) :
    (∃ ds, h.registry.ledger.between v h.registry.ledger.head = .ok ds) ↔
      ∃ j z, h.registry.ledger.base ≤ j ∧ h.checkpoints[j]? = some z ∧ z.value = v := by
  obtain ⟨c, hc, hrecords⟩ := hs.records
  rw [Ledger.exists_between_head_iff hrecords, Ledger.knows_iff_checkpoint hrecords]
  have hlength := hs.length
  constructor
  · rintro ⟨j, hbase, hj, rfl⟩
    have hget := List.getElem?_eq_getElem (l := h.checkpoints) (i := j) (by omega)
    exact ⟨j, _, hbase, hget, hs.value_eq hc hget⟩
  · rintro ⟨j, z, hbase, hz, rfl⟩
    have hj := (List.getElem?_eq_some_iff.mp hz).1
    exact ⟨j, hbase, by omega, (hs.value_eq hc hz).symm⟩

end Chronicle

namespace RevocableBinding

variable {σ : Type} {c : Recomputer σ} {b : RevocableBinding}
  {ledger : LedgerSource σ} {value reached : Int} {ds : List (Delta Int)} {w : Witness}

/-- The same credential at another value of the accumulator. -/
structure Renews (m : Modulus) (entry : Int → Int) (b : RevocableBinding) (value : Int)
    (b' : RevocableBinding) : Prop where
  index : b'.witness.index = b.witness.index
  registryId : b'.registryId = b.registryId
  reference : b'.reference = value
  valid : b'.witness.Valid m entry value

theorem refresh_none {s t : σ} (hh : ledger.head s = .ok value t) :
    b.refresh c ledger none s = b.refresh c ledger (some value) t :=
  Session.bind_of_ok hh _

theorem refresh_of_between_error {s t : σ} {e : Failure}
    (hb : ledger.between b.reference value s = .error e t) :
    b.refresh c ledger (some value) s = .error e t := by
  refine (Session.bind_of_ok (Session.pure_apply value s) _).trans ?_
  exact Session.bind_of_error hb _

theorem refresh_eq_ok {s t u : σ} (hb : ledger.between b.reference value s = .ok ds t)
    (hr : c.recompute b.witness (some b.reference) ds t = .ok (w, reached) u) :
    b.refresh c ledger (some value) s = .ok ⟨w, b.registryId, reached⟩ u := by
  refine (Session.bind_of_ok (Session.pure_apply value s) _).trans ?_
  refine (Session.bind_of_ok hb _).trans ?_
  exact Session.bind_of_ok hr _

theorem refresh_eq_error {s t u : σ} {e : Failure}
    (hb : ledger.between b.reference value s = .ok ds t)
    (hr : c.recompute b.witness (some b.reference) ds t = .error e u) :
    b.refresh c ledger (some value) s = .error e u := by
  refine (Session.bind_of_ok (Session.pure_apply value s) _).trans ?_
  refine (Session.bind_of_ok hb _).trans ?_
  exact Session.bind_of_error hr _

end RevocableBinding

namespace Chronicle

variable {σ τ : Type} {m : Modulus} {entry : Int → Int} {capacity : Nat} {tails : TailsSource σ}
  {h : Chronicle σ} {c : Recomputer τ} {good : τ → Prop} {b : RevocableBinding} {x y : Checkpoint}
  {j k : Nat}

/-- A binding that was valid at any checkpoint, brought to any other one by the registry's ledger:
it is renewed if its index is issued there, and reported as revoked if it is not. -/
theorem refresh_of_between (hrun : IsRun tails m capacity h)
    (hc : tails.Consistent entry capacity) (hfree : m.CollisionFree entry capacity)
    (hm : c.modulus = m) (ha : c.tails.Answers entry capacity good)
    (hx : h.checkpoints[k]? = some x) (hy : h.checkpoints[j]? = some y)
    (href : b.reference = x.value) (hi : b.witness.index ∈ x.issued)
    (hw : b.witness.Valid m entry b.reference) :
    (∀ ds, h.registry.ledger.between b.reference y.value = .ok ds →
      (b.witness.index ∈ y.issued → ∃ b', b.Renews m entry y.value b' ∧
        (b.refresh c h.registry.ledger.service (some y.value)).Yields good b' ∧
        (b'.witness.verify m c.tails b'.reference).Yields good true) ∧
      (¬ b.witness.index ∈ y.issued → ∀ s,
        b.refresh c h.registry.ledger.service (some y.value) s =
          .error (.revoked b.witness.index c.registry) s)) ∧
    ((∃ ds, h.registry.ledger.between b.reference h.registry.ledger.head = .ok ds) ↔
      ∃ j z, h.registry.ledger.base ≤ j ∧ h.checkpoints[j]? = some z ∧ z.value = b.reference) := by
  subst hm
  have hs := sound_of_isRun hrun hc
  refine ⟨fun ds hds => ?_, hs.exists_between_head_iff _⟩
  rw [href] at hds hw
  obtain ⟨a, z, hwalk, hz, hav, hzv, hai, hzi, -⟩ := hs.walk_of_between hfree hx hy hds
  have hrange := (hs.genuine x (List.mem_of_getElem? hx)).inRange _ hi
  have hbetween : ∀ s : τ, (h.registry.ledger.service : LedgerSource τ).between x.value y.value s =
      .ok ds s := by
    intro s
    change Session.ofExcept (h.registry.ledger.between x.value y.value) s = .ok ds s
    rw [hds, Session.ofExcept_ok]
  rw [← hai] at hi
  rw [← hav] at hw
  rw [← hzi]
  constructor
  · intro hissued
    obtain ⟨omega, -, hvalid, hrecompute⟩ := hwalk.recompute_yields ha hrange hw hi hissued hz
    rw [hzv] at hvalid hrecompute
    rw [hav, ← href] at hrecompute
    have hverify := Witness.verify_yields (m := c.modulus) ha
      (w := ⟨b.witness.index, omega⟩) hrange y.value
    rw [decide_eq_true hvalid] at hverify
    refine ⟨⟨⟨b.witness.index, omega⟩, b.registryId, y.value⟩, ⟨rfl, rfl, rfl, hvalid⟩, ?_, hverify⟩
    intro s hgood
    obtain ⟨t, ht, hgood⟩ := hrecompute s hgood
    exact ⟨t, RevocableBinding.refresh_eq_ok (href ▸ hbetween s) ht, hgood⟩
  · intro hgone s
    have hrecompute := hwalk.recompute_revoked (c := c) hi hgone s
    rw [hav, ← href] at hrecompute
    exact RevocableBinding.refresh_eq_error (href ▸ hbetween s) hrecompute

/-- Modulo 15 with two deltas retained: the checkpoint that the binding was made at is let go, but
its value has come back since. -/
theorem refresh_of_between_fifteen :
    let m : Modulus := ⟨15, by decide⟩
    let tails : TailsSource Unit := .ofList [2, 4, 7]
    let c : Recomputer Unit := ⟨m, tails, some "registry"⟩
    let entry := TailsSource.entryIn [2, 4, 7]
    let b : RevocableBinding := ⟨⟨1, 1⟩, some "registry", 2⟩
    let x : Checkpoint := ⟨2, .ofList [1], ∅⟩
    let y : Checkpoint := ⟨14, .ofList [1, 3], .ofList [2]⟩
    ∃ h, IsRun tails m 3 h ∧ m.CollisionFree entry 3 ∧ h.registry.ledger.base = 2 ∧
      h.checkpoints[1]? = some x ∧ h.checkpoints[4]? = some y ∧
      h.registry.ledger.between 2 14 = .ok (h.part 3 4) ∧
      ∃ b', b.Renews m entry 14 b' ∧
        (b.refresh c h.registry.ledger.service (some 14)).Yields (fun _ => True) b' := by
  intro m tails c entry b x y
  have hs : Registry.start m tails "registry" 3 .onDemand (some 2) () = .ok _ () := rfl
  let calls : List Registry.Call := [.issue (.ofList [1]), .issue (.ofList [2]),
    .revoke (.ofList [2]), .assign (some 3)]
  have hrun : IsRun tails m 3 (recordAll tails calls (opening _ ())) :=
    ⟨"registry", .onDemand, some 2, (), _, (), calls, hs, rfl⟩
  have ha := TailsSource.ofList_answers [2, 4, 7] fun _ : Unit => True
  have hfree : m.CollisionFree entry 3 := Modulus.collisionFree_of_powerset (by decide +kernel)
  refine ⟨_, hrun, hfree, ?_, ?hx, ?hy, ?hb, ?renewed⟩
  case renewed =>
    have hrefresh := refresh_of_between (c := c) (b := b) (x := x) (y := y) hrun ha.consistent hfree
      rfl ha ?hx ?hy rfl (by decide) (by decide)
    obtain ⟨b', hb', hyields, -⟩ := (hrefresh.1 _ ?hb).1 (by decide)
    exact ⟨b', hb', hyields⟩
  all_goals decide +kernel

end Chronicle
end Revocation
