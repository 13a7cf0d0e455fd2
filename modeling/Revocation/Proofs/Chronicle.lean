import Revocation.Proofs.Run

/-!
The chronicle of a run: a registry with all that it has ever published, kept whole where the ledger
prunes, and the sets of indices at each checkpoint. It is written down from what can be seen of the
ledger after each call. Main statements: `sound_of_isRun`, by which each delta of a chronicle leads
from one genuine checkpoint to the next, and `Sound.walk`, which makes a walk of any part of it.
-/
namespace Revocation

/-- A value of the accumulator with the sets of indices at the time. -/
structure Checkpoint where
  value : Int
  issued : IndexSet
  revoked : IndexSet
deriving DecidableEq

def Registry.checkpoint (r : Registry) : Checkpoint := ⟨r.accumulator, r.issued, r.revoked⟩

@[simp] theorem Registry.checkpoint_value (r : Registry) : r.checkpoint.value = r.accumulator := rfl

@[simp] theorem Registry.checkpoint_issued (r : Registry) : r.checkpoint.issued = r.issued := rfl

structure Chronicle (σ : Type) where
  registry : Registry
  source : σ
  /-- All deltas, the first one first. -/
  deltas : List (Delta Int)
  /-- The checkpoint before the first delta and the one after each. -/
  checkpoints : List Checkpoint

namespace Chronicle

variable {σ : Type}

def opening (r : Registry) (s : σ) : Chronicle σ := ⟨r, s, [], [r.checkpoint]⟩

/-- Performs a call and writes down what the ledger shows of it. -/
def record (tails : TailsSource σ) (h : Chronicle σ) (c : Registry.Call) : Chronicle σ :=
  let (r, s) := c.perform tails (h.registry, h.source)
  if r.ledger.published = h.registry.ledger.published then { h with registry := r, source := s }
  else ⟨r, s, h.deltas ++ r.ledger.deltas.getLast?.toList, h.checkpoints ++ [r.checkpoint]⟩

def recordAll (tails : TailsSource σ) (calls : List Registry.Call) (h : Chronicle σ) :
    Chronicle σ :=
  calls.foldl (record tails) h

/-- The chronicle of a new registry and any calls on it. -/
def IsRun (tails : TailsSource σ) (m : Modulus) (capacity : Nat) (h : Chronicle σ) : Prop :=
  ∃ id issuance limit s r t calls,
    Registry.start m tails id capacity issuance limit s = .ok r t ∧
      h = recordAll tails calls (opening r t)

theorem record_of_append {tails : TailsSource σ} {h : Chronicle σ} {c : Registry.Call}
    {r : Registry} {s : σ} {d : Delta Int} (hc : c.perform tails (h.registry, h.source) = (r, s))
    (hd : h.registry.ledger.append d = .ok r.ledger) :
    h.record tails c = ⟨r, s, h.deltas ++ [d], h.checkpoints ++ [r.checkpoint]⟩ := by
  have hne : r.ledger.published ≠ h.registry.ledger.published := by
    rw [Ledger.published_of_append hd]
    omega
  rw [record, hc]
  dsimp only
  rw [if_neg hne, Ledger.getLast?_of_append hd]
  rfl

theorem record_of_same {tails : TailsSource σ} {h : Chronicle σ} {c : Registry.Call} {r : Registry}
    {s : σ} (hc : c.perform tails (h.registry, h.source) = (r, s))
    (hl : r.ledger = h.registry.ledger) :
    h.record tails c = { h with registry := r, source := s } := by
  rw [record, hc]
  dsimp only
  rw [if_pos (by rw [hl])]

end Chronicle

namespace Checkpoint

variable (m : Modulus) (entry : Int → Int) (capacity : Nat)

/-- The value is that of the issued set; the sets are in range and apart. -/
structure Genuine (c : Checkpoint) : Prop where
  value : c.value = m.accumulated entry c.issued
  inRange : ∀ i, i ∈ c.issued → i ∈ IndexSet.upTo capacity
  disjoint : ∀ i, i ∈ c.issued → ¬ i ∈ c.revoked

/-- How a registry comes from one checkpoint to the next. -/
structure Advances (a : Checkpoint) (d : Delta Int) (b : Checkpoint) : Prop where
  source : d.source = a.value
  target : d.target = b.value
  value : m.divide? (m.multiply a.value (d.issued.toList.map entry))
    (d.revoked.toList.map entry) = some b.value
  issued : b.issued = (a.issued.union d.issued).diff d.revoked
  revoked : b.revoked = a.revoked.union d.revoked
  inRange : ∀ i, i ∈ d.issued ∨ i ∈ d.revoked → i ∈ IndexSet.upTo capacity
  fresh : ∀ i, i ∈ d.issued → ¬ i ∈ a.issued
  unspent : ∀ i, i ∈ d.issued → ¬ i ∈ a.revoked
  held : ∀ i, i ∈ d.revoked → i ∈ a.issued

/-- From one checkpoint to another, delta by delta. -/
inductive Walk : Checkpoint → List (Delta Int) → Checkpoint → Prop
  | rest (c : Checkpoint) : Walk c [] c
  | step {a b c : Checkpoint} {d : Delta Int} {ds : List (Delta Int)}
      (first : a.Advances m entry capacity d b) (next : Walk b ds c) : Walk a (d :: ds) c

variable {m : Modulus} {entry : Int → Int} {capacity : Nat} {a b : Checkpoint}
  {ds : List (Delta Int)}

theorem Walk.linked (h : Walk m entry capacity a ds b) :
    Delta.Linked a.value ds ∧ Delta.finish a.value ds = b.value := by
  induction h with
  | rest c => exact ⟨trivial, rfl⟩
  | step first next ih =>
    rw [← first.target] at ih
    exact ⟨⟨first.source, ih.1⟩, ih.2⟩

theorem Walk.inRange (h : Walk m entry capacity a ds b) :
    ∀ d, d ∈ ds → ∀ i, i ∈ d.issued ∨ i ∈ d.revoked → i ∈ IndexSet.upTo capacity := by
  induction h with
  | rest c => simp
  | step first next ih => exact List.forall_mem_cons.mpr ⟨first.inRange, ih⟩

variable {c : Checkpoint} {d : Delta Int} {i : Int}

theorem Advances.keeps (h : a.Advances m entry capacity d b) (hi : i ∈ a.issued)
    (hd : ¬ i ∈ d.revoked) : i ∈ b.issued := by
  rw [h.issued, IndexSet.mem_diff, IndexSet.mem_union]
  exact ⟨.inl hi, hd⟩

theorem Advances.revokes (h : a.Advances m entry capacity d b) (hd : i ∈ d.revoked) :
    i ∈ b.revoked ∧ ¬ i ∈ b.issued := by
  rw [h.issued, h.revoked, IndexSet.mem_diff, IndexSet.mem_union]
  exact ⟨.inr hd, fun hi => hi.2 hd⟩

theorem Advances.spent (h : a.Advances m entry capacity d b) (hr : i ∈ a.revoked)
    (hi : ¬ i ∈ a.issued) : i ∈ b.revoked ∧ ¬ i ∈ b.issued := by
  constructor
  · rw [h.revoked, IndexSet.mem_union]
    exact .inl hr
  · rw [h.issued, IndexSet.mem_diff, IndexSet.mem_union]
    rintro ⟨hi' | hi', -⟩
    · exact hi hi'
    · exact h.unspent i hi' hr

theorem Walk.spent (h : Walk m entry capacity a ds b) (hr : i ∈ a.revoked) (hi : ¬ i ∈ a.issued) :
    ¬ i ∈ b.issued := by
  induction h with
  | rest c => exact hi
  | step first next ih =>
    obtain ⟨hr, hi⟩ := first.spent hr hi
    exact ih hr hi

/-- What is issued at the end of a walk was not revoked by its first delta. -/
theorem Advances.not_mem_revoked (first : a.Advances m entry capacity d b)
    (next : Walk m entry capacity b ds c) (hi : i ∈ c.issued) : ¬ i ∈ d.revoked := by
  intro hd
  obtain ⟨hr, hb⟩ := first.revokes hd
  exact next.spent hr hb hi

theorem Walk.keeps (h : Walk m entry capacity a ds b) (hi : i ∈ a.issued)
    (hds : ∀ d, d ∈ ds → ¬ i ∈ d.revoked) : i ∈ b.issued := by
  induction h with
  | rest c => exact hi
  | step first next ih =>
    obtain ⟨hd, hds⟩ := List.forall_mem_cons.mp hds
    exact ih (first.keeps hi hd) hds

end Checkpoint

namespace Registry

variable {entry : Int → Int} {r r' : Registry} {d : Delta Int}

theorem Coherent.genuine (h : Coherent entry r) :
    r.checkpoint.Genuine r.modulus entry r.capacity :=
  ⟨h.accumulator, h.issued_inRange, h.disjoint⟩

theorem Publishes.advances (h : Publishes entry r d r') :
    r.checkpoint.Advances r.modulus entry r.capacity d r'.checkpoint := by
  have ha := h.allows
  have hvalue := h.accumulator
  have ht := h.target
  rw [← hvalue] at ht
  obtain ⟨l, -, rfl⟩ := publish_eq_ok.mp h.result
  exact ⟨h.source, hvalue.symm, ht, rfl, rfl, ha.inRange, ha.fresh, ha.unspent, ha.held⟩

theorem Publishes.ledger (h : Publishes entry r d r') : r.ledger.append d = .ok r'.ledger := by
  obtain ⟨l, hl, rfl⟩ := publish_eq_ok.mp h.result
  exact hl

end Registry

namespace Chronicle

open Checkpoint

variable {σ : Type} {m : Modulus} {entry : Int → Int} {capacity : Nat} {tails : TailsSource σ}
  {h : Chronicle σ}

/-- What holds of a chronicle between calls. -/
structure Sound (m : Modulus) (entry : Int → Int) (capacity : Nat) (h : Chronicle σ) : Prop where
  sameModulus : h.registry.modulus = m
  sameCapacity : h.registry.capacity = capacity
  coherent : Registry.Coherent entry h.registry
  length : h.checkpoints.length = h.deltas.length + 1
  current : h.checkpoints[h.deltas.length]? = some h.registry.checkpoint
  genuine : ∀ c, c ∈ h.checkpoints → c.Genuine m entry capacity
  advances : ∀ j d, h.deltas[j]? = some d → ∃ a b, h.checkpoints[j]? = some a ∧
    h.checkpoints[j + 1]? = some b ∧ a.Advances m entry capacity d b
  records : ∃ c, h.checkpoints[0]? = some c ∧ h.registry.ledger.Records c.value h.deltas

theorem sound_opening {id : String} {issuance : Issuance} {limit : Option Int} {s t : σ}
    {r : Registry} (hc : tails.Consistent entry capacity)
    (h : Registry.start m tails id capacity issuance limit s = .ok r t) :
    Sound m entry capacity (opening r t) := by
  have hr : Registry.Coherent entry r := Registry.coherent_of_start hc h
  obtain ⟨head, l, -, -, hl, rfl⟩ := Registry.start_eq_ok h
  have hrecords := Ledger.records_start hl
  refine ⟨rfl, rfl, hr, rfl, rfl, ?_, ?_, _, rfl, ?_⟩
  · intro c hmem
    rw [List.mem_singleton.mp hmem]
    exact hr.genuine
  · intro j d hd
    cases hd
  · change l.Records l.head []
    rw [hrecords.head]
    exact hrecords

/-- A call that publishes nothing. -/
theorem Sound.stay (hs : Sound m entry capacity h) {r : Registry} (s : σ)
    (hstep : Registry.Step entry h.registry r) (hledger : r.ledger = h.registry.ledger)
    (hcheckpoint : r.checkpoint = h.registry.checkpoint) :
    Sound m entry capacity { h with registry := r, source := s } := by
  have ht := hstep.sameTerms
  refine ⟨ht.modulus.trans hs.sameModulus, ht.capacity.trans hs.sameCapacity,
    hstep.coherent hs.coherent, hs.length, ?_, hs.genuine, hs.advances, ?_⟩
  · change _ = some r.checkpoint
    rw [hcheckpoint]
    exact hs.current
  · change ∃ c, _ ∧ r.ledger.Records _ _
    rw [hledger]
    exact hs.records

/-- A call that publishes a delta. -/
theorem Sound.publish (hs : Sound m entry capacity h) {r : Registry} {d : Delta Int} (s : σ)
    (hp : Registry.Publishes entry h.registry d r) :
    Sound m entry capacity ⟨r, s, h.deltas ++ [d], h.checkpoints ++ [r.checkpoint]⟩ := by
  have ht := (Registry.Step.publish d r hp).sameTerms
  have hmodulus := ht.modulus.trans hs.sameModulus
  have hcapacity := ht.capacity.trans hs.sameCapacity
  have hcoherent := hp.coherent hs.coherent
  have hlast : (h.checkpoints ++ [r.checkpoint])[h.deltas.length + 1]? = some r.checkpoint := by
    rw [← hs.length, List.getElem?_concat_length]
  refine ⟨hmodulus, hcapacity, hcoherent, ?_, ?_, ?_, ?_, ?_⟩
  · simp [hs.length]
  · simpa using hlast
  · intro c hmem
    rcases List.mem_append.mp hmem with hmem | hmem
    · exact hs.genuine c hmem
    · rw [List.mem_singleton.mp hmem, ← hmodulus, ← hcapacity]
      exact hcoherent.genuine
  · intro j e he
    rcases Nat.lt_or_ge j h.deltas.length with hlt | hge
    · rw [List.getElem?_append_left hlt] at he
      obtain ⟨a, b, ha, hb, hab⟩ := hs.advances j e he
      refine ⟨a, b, ?_, ?_, hab⟩
      · rw [List.getElem?_append_left (by have := hs.length; omega), ha]
      · rw [List.getElem?_append_left (by have := hs.length; omega), hb]
    · -- The delta is the new one.
      obtain ⟨hj, -⟩ := List.getElem?_eq_some_iff.mp he
      have hj : j = h.deltas.length := by
        rw [List.length_append, List.length_singleton] at hj
        omega
      subst hj
      rw [List.getElem?_concat_length] at he
      cases he
      refine ⟨h.registry.checkpoint, r.checkpoint, ?_, hlast, ?_⟩
      · rw [List.getElem?_append_left (by have := hs.length; omega), hs.current]
      · rw [← hs.sameModulus, ← hs.sameCapacity]
        exact hp.advances
  · obtain ⟨c, hc, hrecords⟩ := hs.records
    refine ⟨c, ?_, hrecords.append hp.ledger⟩
    rw [List.getElem?_append_left (by have := hs.length; omega), hc]

theorem Sound.step (hs : Sound m entry capacity h) (hc : tails.Consistent entry capacity)
    (c : Registry.Call) :
    Registry.Step entry h.registry (c.perform tails (h.registry, h.source)).1 := by
  refine Registry.step_perform ?_ c h.source
  rw [hs.sameCapacity]
  exact hc

theorem Sound.record (hs : Sound m entry capacity h) (hc : tails.Consistent entry capacity)
    (c : Registry.Call) : Sound m entry capacity (h.record tails c) := by
  have hstep := hs.step hc c
  cases hx : c.perform tails (h.registry, h.source) with
  | mk r s =>
    rw [hx] at hstep
    have hstep' := hstep
    cases hstep with
    | stay =>
      rw [record_of_same hx rfl]
      exact hs.stay s hstep' rfl rfl
    | handOut i =>
      rw [record_of_same hx rfl]
      exact hs.stay s hstep' rfl rfl
    | publish d _ hp =>
      rw [record_of_append hx hp.ledger]
      exact hs.publish s hp

theorem Sound.limit_record (hs : Sound m entry capacity h) (hc : tails.Consistent entry capacity)
    (c : Registry.Call) :
    (h.record tails c).registry.ledger.limit = h.registry.ledger.limit := by
  have hstep := hs.step hc c
  rw [← hstep.sameTerms.limit, Chronicle.record]
  dsimp only
  split <;> rfl

theorem exists_checkpoints_record (tails : TailsSource σ) (h : Chronicle σ) (c : Registry.Call) :
    ∃ more, (h.record tails c).checkpoints = h.checkpoints ++ more := by
  rw [Chronicle.record]
  dsimp only
  split
  · exact ⟨[], (List.append_nil _).symm⟩
  · exact ⟨_, rfl⟩

theorem getElem?_recordAll {k : Nat} {x : Checkpoint} (hx : h.checkpoints[k]? = some x)
    (calls : List Registry.Call) : (h.recordAll tails calls).checkpoints[k]? = some x := by
  induction calls generalizing h with
  | nil => exact hx
  | cons c calls ih =>
    refine ih ?_
    obtain ⟨more, hmore⟩ := exists_checkpoints_record tails h c
    rw [hmore, List.getElem?_append_left (List.getElem?_eq_some_iff.mp hx).1, hx]

theorem Sound.recordAll (hs : Sound m entry capacity h) (hc : tails.Consistent entry capacity)
    (calls : List Registry.Call) : Sound m entry capacity (h.recordAll tails calls) := by
  induction calls generalizing h with
  | nil => exact hs
  | cons c calls ih => exact ih (hs.record hc c)

theorem Sound.limit_recordAll (hs : Sound m entry capacity h) (hc : tails.Consistent entry capacity)
    (calls : List Registry.Call) :
    (h.recordAll tails calls).registry.ledger.limit = h.registry.ledger.limit := by
  induction calls generalizing h with
  | nil => rfl
  | cons c calls ih => exact (ih (hs.record hc c)).trans (hs.limit_record hc c)

theorem sound_of_isRun (hrun : IsRun tails m capacity h) (hc : tails.Consistent entry capacity) :
    Sound m entry capacity h := by
  obtain ⟨id, issuance, limit, s, r, t, calls, hs, rfl⟩ := hrun
  exact (sound_opening hc hs).recordAll hc calls

/-- The deltas from one checkpoint to a later one. -/
def part (h : Chronicle σ) (k n : Nat) : List (Delta Int) := (h.deltas.drop k).take (n - k)

theorem Sound.walk (hs : Sound m entry capacity h) {k n : Nat} {a b : Checkpoint} (hkn : k ≤ n)
    (ha : h.checkpoints[k]? = some a) (hb : h.checkpoints[n]? = some b) :
    Walk m entry capacity a (h.part k n) b := by
  obtain ⟨j, rfl⟩ := Nat.exists_eq_add_of_le hkn
  rw [part, Nat.add_sub_cancel_left]
  induction j generalizing k a with
  | zero =>
    cases ha.symm.trans hb
    exact .rest b
  | succ j ih =>
    have hlt : k < h.deltas.length := by
      have := (List.getElem?_eq_some_iff.mp hb).1
      have := hs.length
      omega
    obtain ⟨a', c, ha', hc, hadv⟩ := hs.advances k _ (List.getElem?_eq_getElem hlt)
    cases ha.symm.trans ha'
    rw [List.drop_eq_getElem_cons hlt, List.take_succ_cons]
    refine .step hadv (ih hc (Nat.le_add_right _ _) ?_)
    rw [← hb]
    congr 1
    omega

end Chronicle
end Revocation
