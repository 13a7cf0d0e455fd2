import Revocation.Proofs.Update

/-!
Runs of a registry: any calls one after the other, each of them successful or not, over tails that
may fail at any time. Main statements: `change_perform`, which lists what one call can do,
`Change.step`, which adds the values where the source is consistent, and `performAll_induct`, by
which accumulator and index sets agree in every state of a run.
-/
namespace Revocation

namespace Registry

variable {σ : Type} {entry : Int → Int}

inductive Call
  | issue (indices : IndexSet)
  | revoke (indices : IndexSet)
  | update (issued revoked : IndexSet)
  | assign (index : Option Int)
  | issueCredential (index : Option Int)

def Call.run (tails : TailsSource σ) : Call → Session (Registry × σ) Unit
  | .issue is => discard <| Registry.update tails is ∅
  | .revoke is => discard <| Registry.update tails ∅ is
  | .update is js => discard <| Registry.update tails is js
  | .assign i => discard <| Registry.assign tails i
  | .issueCredential i => discard <| Registry.issueCredential tails i

/-- The registry and its source after a call, whatever has come of it. -/
def Call.perform (tails : TailsSource σ) (c : Call) (x : Registry × σ) : Registry × σ :=
  (c.run tails).after x

def performAll (tails : TailsSource σ) (calls : List Call) (x : Registry × σ) : Registry × σ :=
  calls.foldl (fun x c => c.perform tails x) x

/-- All that a call can do to a registry, whatever its tails answer. -/
inductive Change (tails : TailsSource σ) (r : Registry) (s : σ) : Registry → Prop
  | stay : Change tails r s r
  | handOut (i : Int) (hr : r.issuance = .byDefault) (hi : i ∈ IndexSet.upTo r.capacity)
      (hassigned : ¬ i ∈ r.assigned) (hrevoked : ¬ i ∈ r.revoked) : Change tails r s (r.handOut i)
  | publish (d : Delta Int) (r' : Registry) (t : σ) (h : PublishesFrom tails r s d r' t) :
      Change tails r s r'

/-- All that a call can do to a registry, in terms of the entries of its indices. -/
inductive Step (entry : Int → Int) (r : Registry) : Registry → Prop
  | stay : Step entry r r
  | handOut (i : Int) (hr : r.issuance = .byDefault) (hi : i ∈ IndexSet.upTo r.capacity)
      (hassigned : ¬ i ∈ r.assigned) (hrevoked : ¬ i ∈ r.revoked) : Step entry r (r.handOut i)
  | publish (d : Delta Int) (r' : Registry) (h : Publishes entry r d r') : Step entry r r'

theorem handOut_of_mem {r : Registry} {i : Int} (h : i ∈ r.assigned) : r.handOut i = r := by
  have hs : r.assigned.insert i = r.assigned := by
    refine IndexSet.ext_mem fun k => ?_
    rw [IndexSet.mem_insert]
    constructor
    · rintro (rfl | hk)
      · exact h
      · exact hk
    · exact .inr
  rw [handOut, hs]

variable {tails : TailsSource σ} {r : Registry} {s : σ}

theorem PublishesFrom.assigned {r' : Registry} {d : Delta Int} {t : σ}
    (h : PublishesFrom tails r s d r' t) : r'.assigned = r.assigned.union d.issued := by
  obtain ⟨l, -, rfl⟩ := publish_eq_ok.mp h.result
  rfl

/-- The delta of an index that is issued has marked it already. -/
theorem PublishesFrom.handOut_eq {r' : Registry} {d : Delta Int} {t : σ} {i : Int}
    (h : PublishesFrom tails r s d r' t) (hd : d.issued = .ofList [i]) : r'.handOut i = r' := by
  refine handOut_of_mem ?_
  rw [h.assigned, hd]
  simp

theorem change_update (tails : TailsSource σ) (r : Registry) (issued revoked : IndexSet) (s : σ) :
    Change tails r s ((discard (update tails issued revoked)).after (r, s)).1 := by
  rcases update_or_error tails r issued revoked s with ⟨e, t, hu⟩ | ⟨d, r', t, hu, -, -, hp⟩
  · rw [Session.after_of_error (Session.discard_of_error hu)]
    exact .stay
  · rw [Session.after_of_ok (Session.discard_of_ok hu)]
    exact .publish d r' t hp

theorem change_assign (tails : TailsSource σ) (r : Registry) (index : Option Int) (s : σ) :
    Change tails r s ((assign tails index).after (r, s)).1 := by
  rcases assign_or_error tails r index s with
    ⟨e, t, ha⟩ | ⟨i, r', t, ha, hi, hassigned, hrevoked, ⟨hk, rfl⟩ | ⟨-, d, hd, -, hp⟩⟩
  · rw [Session.after_of_error ha]
    exact .stay
  · rw [Session.after_of_ok ha]
    exact .handOut i hk hi hassigned hrevoked
  · rw [Session.after_of_ok ha]
    change Change tails r s (r'.handOut i)
    rw [hp.handOut_eq hd]
    exact .publish d r' t hp

theorem after_discard {α : Type} (x : Session (Registry × σ) α) (y : Registry × σ) :
    (discard x).after y = x.after y := by
  cases h : x y with
  | ok a z => rw [Session.after_of_ok h, Session.after_of_ok (Session.discard_of_ok h)]
  | error e z => rw [Session.after_of_error h, Session.after_of_error (Session.discard_of_error h)]

theorem change_perform (tails : TailsSource σ) (r : Registry) (c : Call) (s : σ) :
    Change tails r s (c.perform tails (r, s)).1 := by
  cases c with
  | issue is => exact change_update tails r is ∅ s
  | revoke is => exact change_update tails r ∅ is s
  | update is js => exact change_update tails r is js s
  | assign i =>
    rw [Call.perform, Call.run, after_discard]
    exact change_assign tails r i s
  | issueCredential i =>
    rw [Call.perform, Call.run, after_discard, after_issueCredential]
    exact change_assign tails r i s

theorem Change.step {r' : Registry} (h : Change tails r s r')
    (hc : tails.Consistent entry r.capacity) : Step entry r r' := by
  cases h with
  | stay => exact .stay
  | handOut i hr hi hassigned hrevoked => exact .handOut i hr hi hassigned hrevoked
  | publish d _ t h => exact .publish d r' (h.publishes hc)

theorem step_perform (hc : tails.Consistent entry r.capacity) (c : Call) (s : σ) :
    Step entry r (c.perform tails (r, s)).1 :=
  (change_perform tails r c s).step hc

/-- What holds of a registry between calls, given the entries of its indices. -/
structure Coherent (entry : Int → Int) (r : Registry) : Prop where
  accumulator : r.accumulator = r.modulus.accumulated entry r.issued
  issued_inRange : ∀ i, i ∈ r.issued → i ∈ IndexSet.upTo r.capacity
  revoked_inRange : ∀ i, i ∈ r.revoked → i ∈ IndexSet.upTo r.capacity
  disjoint : ∀ i, i ∈ r.issued → ¬ i ∈ r.revoked
  onDemand : r.issuance = .onDemand → r.assigned = r.issued.union r.revoked
  byDefault : r.issuance = .byDefault →
    r.issued.union r.revoked = IndexSet.upTo r.capacity ∧
      ∀ i, i ∈ r.assigned → i ∈ IndexSet.upTo r.capacity

theorem Publishes.accumulator {r r' : Registry} {d : Delta Int} (h : Publishes entry r d r') :
    r'.accumulator = d.target := by
  obtain ⟨l, hl, rfl⟩ := publish_eq_ok.mp h.result
  exact Ledger.head_of_append hl

theorem Publishes.target_eq {r r' : Registry} {d : Delta Int} (h : Publishes entry r d r')
    (hr : r.accumulator = r.modulus.accumulated entry r.issued) :
    d.target = r.modulus.accumulated entry ((r.issued.union d.issued).diff d.revoked) := by
  have ht := h.target
  rw [hr, Modulus.multiply_accumulated h.allows.fresh] at ht
  refine Modulus.eq_accumulated_of_divide? (fun i hi => ?_) ht
  exact IndexSet.mem_union.mpr (.inl (h.allows.held i hi))

theorem Publishes.coherent {r r' : Registry} {d : Delta Int} (h : Publishes entry r d r')
    (hr : Coherent entry r) : Coherent entry r' := by
  have hvalue := h.accumulator.trans (h.target_eq hr.accumulator)
  obtain ⟨l, -, rfl⟩ := publish_eq_ok.mp h.result
  have ha := h.allows
  refine ⟨hvalue, ?_, ?_, ?_, ?_, ?_⟩
  · intro i hi
    rcases IndexSet.mem_union.mp (IndexSet.mem_diff.mp hi).1 with hi | hi
    · exact hr.issued_inRange i hi
    · exact ha.inRange i (.inl hi)
  · intro i hi
    rcases IndexSet.mem_union.mp hi with hi | hi
    · exact hr.revoked_inRange i hi
    · exact ha.inRange i (.inr hi)
  · intro i hi hi'
    obtain ⟨hi, hnot⟩ := IndexSet.mem_diff.mp hi
    rcases IndexSet.mem_union.mp hi' with hi' | hi'
    · rcases IndexSet.mem_union.mp hi with hi | hi
      · exact hr.disjoint i hi hi'
      · exact ha.unspent i hi hi'
    · exact hnot hi'
  · -- An index that goes out was in before, so it is counted on both sides.
    intro hk
    refine IndexSet.ext_mem fun i => ?_
    have hassigned := hr.onDemand hk
    have hheld := ha.held i
    simp only [hassigned, IndexSet.mem_union, IndexSet.mem_diff]
    by_cases hi : i ∈ d.revoked <;> simp_all
    tauto
  · intro hk
    obtain ⟨hall, hassigned⟩ := hr.byDefault hk
    have hmem : ∀ i, i ∈ r.issued ∨ i ∈ r.revoked ↔ i ∈ IndexSet.upTo r.capacity := by
      intro i
      rw [← hall, IndexSet.mem_union]
    -- Nothing is left to be issued.
    have hnone : ∀ i, ¬ i ∈ d.issued := by
      intro i hi
      rcases (hmem i).mpr (ha.inRange i (.inl hi)) with h | h
      · exact ha.fresh i hi h
      · exact ha.unspent i hi h
    constructor
    · refine IndexSet.ext_mem fun i => ?_
      have hheld := ha.held i
      have := hmem i
      have := hnone i
      simp only [IndexSet.mem_union, IndexSet.mem_diff]
      by_cases hi : i ∈ d.revoked <;> simp_all
    · intro i hi
      rcases IndexSet.mem_union.mp hi with hi | hi
      · exact hassigned i hi
      · exact (hnone i hi).elim

theorem Coherent.handOut {r : Registry} {i : Int} (hr : Coherent entry r)
    (hk : r.issuance = .byDefault) (hi : i ∈ IndexSet.upTo r.capacity) :
    Coherent entry (r.handOut i) := by
  obtain ⟨hall, hassigned⟩ := hr.byDefault hk
  refine ⟨hr.accumulator, hr.issued_inRange, hr.revoked_inRange, hr.disjoint, ?_, ?_⟩
  · intro hd
    rw [Registry.handOut, hk] at hd
    cases hd
  · intro _
    refine ⟨hall, fun k hmem => ?_⟩
    rcases IndexSet.mem_insert.mp hmem with rfl | hmem
    · exact hi
    · exact hassigned k hmem

theorem Step.coherent {r r' : Registry} (h : Step entry r r') (hr : Coherent entry r) :
    Coherent entry r' := by
  cases h with
  | stay => exact hr
  | handOut i hk hi => exact hr.handOut hk hi
  | publish d _ h => exact h.coherent hr

/-- What no call changes. -/
structure SameTerms (r r' : Registry) : Prop where
  id : r'.id = r.id
  modulus : r'.modulus = r.modulus
  capacity : r'.capacity = r.capacity
  issuance : r'.issuance = r.issuance
  limit : r'.ledger.limit = r.ledger.limit

theorem SameTerms.refl (r : Registry) : SameTerms r r := ⟨rfl, rfl, rfl, rfl, rfl⟩

theorem SameTerms.symm {r r' : Registry} (h : SameTerms r r') : SameTerms r' r :=
  ⟨h.id.symm, h.modulus.symm, h.capacity.symm, h.issuance.symm, h.limit.symm⟩

theorem SameTerms.trans {r r' r'' : Registry} (h : SameTerms r r') (h' : SameTerms r' r'') :
    SameTerms r r'' :=
  ⟨h'.id.trans h.id, h'.modulus.trans h.modulus, h'.capacity.trans h.capacity,
    h'.issuance.trans h.issuance, h'.limit.trans h.limit⟩

theorem sameTerms_of_publish {r r' : Registry} {d : Delta Int} (h : r.publish d = .ok r') :
    SameTerms r r' := by
  obtain ⟨l, hl, rfl⟩ := publish_eq_ok.mp h
  exact ⟨rfl, rfl, rfl, rfl, Ledger.limit_of_append hl⟩

theorem Step.sameTerms {r r' : Registry} (h : Step entry r r') : SameTerms r r' := by
  cases h with
  | stay => exact .refl r
  | handOut => exact ⟨rfl, rfl, rfl, rfl, rfl⟩
  | publish d _ h => exact sameTerms_of_publish h.result

theorem Change.sameTerms {r r' : Registry} (h : Change tails r s r') : SameTerms r r' := by
  cases h with
  | stay => exact .refl r
  | handOut => exact ⟨rfl, rfl, rfl, rfl, rfl⟩
  | publish d _ t h => exact sameTerms_of_publish h.result

theorem start_eq_ok {m : Modulus} {id : String} {capacity : Int} {issuance : Issuance}
    {limit : Option Int} {s t : σ} (h : start m tails id capacity issuance limit s = .ok r t) :
    ∃ head l, 1 ≤ capacity ∧
      tails.including m Modulus.identity (initial capacity.toNat issuance).toList s = .ok head t ∧
      Ledger.start head limit = .ok l ∧
      r = ⟨id, m, capacity.toNat, issuance, ∅, initial capacity.toNat issuance, ∅, l⟩ := by
  rw [start] at h
  split at h
  · simp [Session.bind_apply] at h
  · obtain ⟨head, u, hi, h⟩ := Session.bind_eq_ok.mp h
    obtain ⟨l, v, hl, h⟩ := Session.bind_eq_ok.mp h
    cases hs : Ledger.start head limit with
    | error e =>
      rw [hs] at hl
      cases hl
    | ok l' =>
      rw [hs] at hl
      cases hl
      cases h
      exact ⟨head, l, by omega, hi, hs, rfl⟩

theorem coherent_of_start {m : Modulus} {id : String} {capacity : Int} {issuance : Issuance}
    {limit : Option Int} {s t : σ} (hc : tails.Consistent entry capacity.toNat)
    (h : start m tails id capacity issuance limit s = .ok r t) : Coherent entry r := by
  obtain ⟨head, l, -, hi, hl, rfl⟩ := start_eq_ok h
  have hinitial : ∀ i, i ∈ initial capacity.toNat issuance → i ∈ IndexSet.upTo capacity.toNat := by
    cases issuance with
    | byDefault => exact fun i hi => hi
    | onDemand => exact fun i hi => (IndexSet.not_mem_empty i hi).elim
  have hhead : head = m.accumulated entry (initial capacity.toNat issuance) := by
    rw [TailsSource.including_eq_ok hc hinitial hi, Modulus.multiply_identity]
  refine ⟨(Ledger.records_start hl).head.trans hhead, hinitial, by simp, by simp, ?_, ?_⟩
  · rintro rfl
    exact IndexSet.ext_mem fun i => by simp [initial]
  · rintro rfl
    exact ⟨IndexSet.ext_mem fun i => by simp [initial], by simp⟩

theorem performAll_cons (c : Call) (calls : List Call) (x : Registry × σ) :
    performAll tails (c :: calls) x = performAll tails calls (c.perform tails x) := rfl

theorem performAll_keeps {P : Registry → Prop}
    (hstep : ∀ r s r', P r → Change tails r s r' → P r') (hr : P r) (calls : List Call) (s : σ) :
    P (performAll tails calls (r, s)).1 := by
  induction calls generalizing r s with
  | nil => exact hr
  | cons c calls ih => exact ih (hstep r s _ hr (change_perform tails r c s)) _

theorem sameTerms_performAll (tails : TailsSource σ) (calls : List Call) (r : Registry) (s : σ) :
    SameTerms r (performAll tails calls (r, s)).1 := by
  exact performAll_keeps (P := SameTerms r) (fun _ _ _ h hchange => h.trans hchange.sameTerms)
    (.refl r) calls s

theorem performAll_induct {P : Registry → Prop} (hc : tails.Consistent entry r.capacity)
    (hstep : ∀ r r', P r → Step entry r r' → P r') (hr : P r) (calls : List Call) (s : σ) :
    P (performAll tails calls (r, s)).1 := by
  refine (performAll_keeps (P := fun r' => P r' ∧ r'.capacity = r.capacity)
    (fun r₁ s r₂ h hchange => ?_) ⟨hr, rfl⟩ calls s).1
  rw [← h.2] at hc
  exact ⟨hstep r₁ r₂ h.1 (hchange.step hc), hchange.sameTerms.capacity.trans h.2⟩

/-- After any calls the accumulator is the product of the entries of the issued indices, issued and
revoked indices are apart and in range, and what has been handed out is what the way of issuance
allows. -/
theorem coherent_of_run {m : Modulus} {id : String} {capacity : Int} {issuance : Issuance}
    {limit : Option Int} {s t : σ} (hc : tails.Consistent entry capacity.toNat)
    (hs : start m tails id capacity issuance limit s = .ok r t) (calls : List Call) :
    let r' := (performAll tails calls (r, t)).1
    Coherent entry r' ∧ r'.modulus = m ∧ r'.capacity = capacity.toNat ∧ r'.issuance = issuance := by
  have hr := coherent_of_start hc hs
  obtain ⟨head, l, -, -, -, rfl⟩ := start_eq_ok hs
  refine performAll_induct (P := fun r => Coherent entry r ∧ r.modulus = m ∧
    r.capacity = capacity.toNat ∧ r.issuance = issuance) hc ?_ ⟨hr, rfl, rfl, rfl⟩ calls t
  rintro r r' ⟨hr, hm, hn, hk⟩ h
  have ht := h.sameTerms
  exact ⟨h.coherent hr, ht.modulus.trans hm, ht.capacity.trans hn, ht.issuance.trans hk⟩

/-- A run modulo 15 in which one batch is refused and one entry withheld; the entry 5 has no
inverse. -/
theorem coherent_of_run_fifteen :
    let tails := TailsSource.watched [2, 4, 5, 7]
    tails.Consistent (TailsSource.entryIn [2, 4, 5, 7]) (4 : Int).toNat ∧
      ∃ r t, start ⟨15, by decide⟩ tails "registry" 4 .onDemand (some 1) ⟨[], [4]⟩ = .ok r t ∧
        let r' := (performAll tails [.issue (.ofList [1, 2]), .revoke (.ofList [1, 3]),
          .update ∅ (.ofList [1]), .issueCredential (some 4), .assign none] (r, t)).1
        r'.issued = .ofList [2, 3] ∧ r'.revoked = .ofList [1] ∧ r'.accumulator = 5 ∧
          Coherent (TailsSource.entryIn [2, 4, 5, 7]) r' := by
  intro tails
  have hc := TailsSource.watched_consistent [2, 4, 5, 7]
  have hs : start ⟨15, by decide⟩ tails "registry" 4 .onDemand (some 1) ⟨[], [4]⟩ = .ok _ _ := rfl
  refine ⟨hc, _, _, hs, ?_, ?_, ?_, (coherent_of_run hc hs _).1⟩
  · decide +kernel
  · decide +kernel
  · decide +kernel

end Registry
end Revocation
