import Revocation.Proofs.Ledger
import Revocation.Proofs.Source
import Revocation.Registry.Credential

/-!
What one operation on a registry can do. An operation that fails before it publishes leaves the
registry as it was; `PublishesFrom` says all that one delta asks for and changes, and
`update_or_error` and `assign_or_error` list what is left open by guards and by tails that may not
answer. Where the source is consistent, `Publishes` says the same in terms of entries.
-/
namespace Revocation

theorem checkIndex_eq_ok {i capacity : Int} :
    checkIndex i capacity = .ok () ↔ 1 ≤ i ∧ i ≤ capacity := by
  grind [checkIndex]

theorem checkIndex_eq_ok_iff_mem {i : Int} {n : Nat} :
    checkIndex i n = .ok () ↔ i ∈ IndexSet.upTo n := by
  rw [checkIndex_eq_ok, IndexSet.mem_upTo]

theorem forM_eq_ok {α : Type} {f : α → Except Failure Unit} {as : List α} :
    as.forM f = .ok () ↔ ∀ a, a ∈ as → f a = .ok () := by
  induction as with
  | nil => simp [pure, Except.pure]
  | cons a as ih =>
    rw [List.forall_mem_cons, ← ih, List.forM]
    cases f a <;> simp [bind, Except.bind]

namespace Registry

variable {σ : Type} {r : Registry} {issued revoked : IndexSet}

/-- What a registry asks of a batch before it looks at any entry. -/
structure Allows (r : Registry) (issued revoked : IndexSet) : Prop where
  something : ¬ (issued.isEmpty ∧ revoked.isEmpty)
  inRange : ∀ i, i ∈ issued ∨ i ∈ revoked → i ∈ IndexSet.upTo r.capacity
  fresh : ∀ i, i ∈ issued → ¬ i ∈ r.issued
  unspent : ∀ i, i ∈ issued → ¬ i ∈ r.revoked
  held : ∀ i, i ∈ revoked → i ∈ r.issued

theorem allow_eq_ok : r.allow issued revoked = .ok () ↔ r.Allows issued revoked := by
  have hrange : ((issued.union revoked).toList.forM fun i => checkIndex i r.capacity) = .ok () ↔
      ∀ i, i ∈ issued ∨ i ∈ revoked → i ∈ IndexSet.upTo r.capacity := by
    simp only [forM_eq_ok, checkIndex_eq_ok_iff_mem, ← IndexSet.mem_def, IndexSet.mem_union]
  have hfresh : (issued.inter r.issued).isEmpty ↔ ∀ i, i ∈ issued → ¬ i ∈ r.issued := by
    simp [IndexSet.isEmpty_iff]
  have hunspent : (issued.inter r.revoked).isEmpty ↔ ∀ i, i ∈ issued → ¬ i ∈ r.revoked := by
    simp [IndexSet.isEmpty_iff]
  have hheld : (revoked.diff r.issued).isEmpty ↔ ∀ i, i ∈ revoked → i ∈ r.issued := by
    simp [IndexSet.isEmpty_iff]
  have hchecks : r.allow issued revoked = .ok () ↔
      ¬ (issued.isEmpty ∧ revoked.isEmpty) ∧
      ((issued.union revoked).toList.forM fun i => checkIndex i r.capacity) = .ok () ∧
      (issued.inter r.issued).isEmpty ∧ (issued.inter r.revoked).isEmpty ∧
      (revoked.diff r.issued).isEmpty := by
    simp only [allow, bind, Except.bind, pure, Except.pure, throw, throwThe,
      MonadExceptOf.throw]
    cases (issued.union revoked).toList.forM fun i => checkIndex i r.capacity <;>
      (repeat' split) <;> simp_all
  rw [hchecks, hrange, hfresh, hunspent, hheld]
  constructor
  · rintro ⟨h1, h2, h3, h4, h5⟩
    exact ⟨h1, h2, h3, h4, h5⟩
  · rintro ⟨h1, h2, h3, h4, h5⟩
    exact ⟨h1, h2, h3, h4, h5⟩

theorem Allows.disjoint (h : r.Allows issued revoked) : ∀ i, i ∈ issued → ¬ i ∈ revoked :=
  fun i hi hr => h.fresh i hi (h.held i hr)

/-- All that publishing one delta asks of a registry with these entries, and all that it changes. -/
structure Publishes (entry : Int → Int) (r : Registry) (d : Delta Int) (r' : Registry) : Prop where
  allows : r.Allows d.issued d.revoked
  source : d.source = r.accumulator
  target : r.modulus.divide? (r.modulus.multiply r.accumulator (d.issued.toList.map entry))
    (d.revoked.toList.map entry) = some d.target
  result : r.publish d = .ok r'

theorem publish_eq_ok {d : Delta Int} {r' : Registry} :
    r.publish d = .ok r' ↔ ∃ l, r.ledger.append d = .ok l ∧ r' = { r with
      ledger := l
      issued := (r.issued.union d.issued).diff d.revoked
      revoked := r.revoked.union d.revoked
      assigned := r.assigned.union d.issued } := by
  rw [publish]
  cases r.ledger.append d with
  | ok l => simp [Except.map, eq_comm]
  | error e => simp [Except.map]

theorem exists_publish {d : Delta Int} (h : d.source = r.accumulator) :
    ∃ r', r.publish d = .ok r' := by
  rw [accumulator] at h
  rw [publish, Ledger.append, if_pos h]
  exact ⟨_, rfl⟩

/-- The value that a batch brings the accumulator to. -/
def moved (tails : TailsSource σ) (r : Registry) (issued revoked : IndexSet) : Session σ Int := do
  let value ← tails.including r.modulus r.accumulator issued.toList
  tails.excluding r.modulus value revoked.toList

theorem update_of_not_allowed {e : Failure} (tails : TailsSource σ)
    (h : r.allow issued revoked = .error e) (s : σ) :
    update tails issued revoked (r, s) = .error e (r, s) := by
  simp only [update, Session.bind_apply, Session.get_apply, h, Session.ofExcept_error]

theorem update_of_moved_error {tails : TailsSource σ} {s t : σ} {e : Failure}
    (ha : r.Allows issued revoked) (h : moved tails r issued revoked s = .error e t) :
    update tails issued revoked (r, s) = .error e (r, t) := by
  rw [moved, Session.bind_apply] at h
  simp only [update, Session.bind_apply, Session.get_apply, allow_eq_ok.mpr ha,
    Session.ofExcept_ok, TailsSource.inner_including, TailsSource.inner_excluding, Session.inner]
  cases hi : tails.including r.modulus r.accumulator issued.toList s with
  | error e u =>
    rw [hi] at h
    cases h
    rfl
  | ok v u =>
    rw [hi] at h
    simp only [h]

theorem update_of_moved {tails : TailsSource σ} {s t : σ} {value : Int}
    (ha : r.Allows issued revoked) (h : moved tails r issued revoked s = .ok value t) :
    ∃ r', r.publish ⟨r.accumulator, value, issued, revoked, ha.disjoint⟩ = .ok r' ∧
      update tails issued revoked (r, s) =
        .ok ⟨r.accumulator, value, issued, revoked, ha.disjoint⟩ (r', t) := by
  obtain ⟨r', hr'⟩ := exists_publish (r := r)
    (d := ⟨r.accumulator, value, issued, revoked, ha.disjoint⟩) rfl
  refine ⟨r', hr', ?_⟩
  obtain ⟨v, u, hi, hx⟩ := Session.bind_eq_ok.mp h
  simp only [update, Session.bind_apply, Session.get_apply, allow_eq_ok.mpr ha,
    Session.ofExcept_ok, TailsSource.inner_including, TailsSource.inner_excluding, Session.inner,
    hi, hx, Delta.ofSets_eq_ok ha.disjoint, hr', Session.modify_apply, Session.pure_apply]

/-- All that publishing one delta asks of a registry and of the state of its tails, and what comes of
both. -/
structure PublishesFrom (tails : TailsSource σ) (r : Registry) (s : σ) (d : Delta Int)
    (r' : Registry) (t : σ) : Prop where
  allows : r.Allows d.issued d.revoked
  source : d.source = r.accumulator
  moved : moved tails r d.issued d.revoked s = .ok d.target t
  result : r.publish d = .ok r'

/-- An update fails and leaves the registry as it was, or publishes the batch, whatever the entries
are. -/
theorem update_or_error (tails : TailsSource σ) (r : Registry) (issued revoked : IndexSet) (s : σ) :
    (∃ e t, update tails issued revoked (r, s) = .error e (r, t)) ∨
    ∃ d r' t, update tails issued revoked (r, s) = .ok d (r', t) ∧
      d.issued = issued ∧ d.revoked = revoked ∧ PublishesFrom tails r s d r' t := by
  cases ha : r.allow issued revoked with
  | error e => exact .inl ⟨e, s, update_of_not_allowed tails ha s⟩
  | ok _ =>
    have ha := allow_eq_ok.mp ha
    cases hm : moved tails r issued revoked s with
    | error e t => exact .inl ⟨e, t, update_of_moved_error ha hm⟩
    | ok value t =>
      obtain ⟨r', hr', hu⟩ := update_of_moved ha hm
      exact .inr ⟨_, r', t, hu, rfl, rfl, ha, rfl, hm, hr'⟩

theorem PublishesFrom.publishes {tails : TailsSource σ} {entry : Int → Int} {s t : σ}
    {d : Delta Int} {r' : Registry} (h : PublishesFrom tails r s d r' t)
    (hc : tails.Consistent entry r.capacity) : Publishes entry r d r' := by
  refine ⟨h.allows, h.source, ?_, h.result⟩
  obtain ⟨v, u, hi, hx⟩ := Session.bind_eq_ok.mp h.moved
  have hv := TailsSource.including_eq_ok hc (fun i hi => h.allows.inRange i (.inl hi)) hi
  subst hv
  exact TailsSource.excluding_eq_ok hc (fun i hi => h.allows.inRange i (.inr hi)) hx

/-- An update fails and leaves the registry as it was, or publishes the batch. -/
theorem update_cases {tails : TailsSource σ} {entry : Int → Int}
    (hc : tails.Consistent entry r.capacity) (issued revoked : IndexSet) (s : σ) :
    (∃ e t, update tails issued revoked (r, s) = .error e (r, t)) ∨
    ∃ d r' t, update tails issued revoked (r, s) = .ok d (r', t) ∧
      d.issued = issued ∧ d.revoked = revoked ∧ Publishes entry r d r' := by
  rcases update_or_error tails r issued revoked s with h | ⟨d, r', t, hu, hd, hd', hp⟩
  · exact .inl h
  · exact .inr ⟨d, r', t, hu, hd, hd', hp.publishes hc⟩

/-- Marks an index as handed out. -/
def handOut (r : Registry) (index : Int) : Registry :=
  { r with assigned := r.assigned.insert index }

theorem isTaken_eq_false {i : Int} : r.isTaken i = false ↔ ¬ i ∈ r.assigned ∧ ¬ i ∈ r.revoked := by
  simp [isTaken]

theorem assign_none (tails : TailsSource σ) (s : σ) :
    assign tails none (r, s) = match r.free? with
      | some i => assign tails (some i) (r, s)
      | none => .error (.registryFull r.id r.capacity) (r, s) := by
  cases hf : r.free? with
  | some i => simp only [assign, Session.bind_apply, Session.get_apply, Session.pure_apply, hf]
  | none => simp only [assign, Session.bind_apply, Session.get_apply, Session.throw_apply, hf]

section

variable (tails : TailsSource σ) {i : Int} (s : σ)

theorem assign_of_outOfRange {e : Failure} (h : checkIndex i r.capacity = .error e) :
    assign tails (some i) (r, s) = .error e (r, s) := by
  simp only [assign, Session.bind_apply, Session.get_apply, Session.pure_apply, h,
    Session.ofExcept_error]

variable (hi : i ∈ IndexSet.upTo r.capacity)
include hi

theorem assign_of_taken (ht : r.isTaken i = true) :
    assign tails (some i) (r, s) = .error (.inconsistent (.alreadyAssigned i)) (r, s) := by
  simp only [assign, Session.bind_apply, Session.get_apply, Session.pure_apply,
    checkIndex_eq_ok_iff_mem.mpr hi, Session.ofExcept_ok, ht]
  rfl

variable (ht : r.isTaken i = false)
include ht

theorem assign_of_byDefault (hk : r.issuance = .byDefault) :
    assign tails (some i) (r, s) = .ok i (r.handOut i, s) := by
  simp only [assign, Session.bind_apply, Session.get_apply, Session.pure_apply,
    checkIndex_eq_ok_iff_mem.mpr hi, Session.ofExcept_ok, ht, hk]
  rfl

theorem assign_of_onDemand (hk : r.issuance = .onDemand) :
    assign tails (some i) (r, s) = match update tails (.ofList [i]) ∅ (r, s) with
      | .ok _ (r', t) => .ok i (r'.handOut i, t)
      | .error e x => .error e x := by
  simp only [assign, Session.bind_apply, Session.get_apply, Session.pure_apply,
    checkIndex_eq_ok_iff_mem.mpr hi, Session.ofExcept_ok, ht, hk]
  rw [if_neg Bool.false_ne_true, if_pos trivial, Session.bind_apply]
  cases hu : update tails (.ofList [i]) ∅ (r, s) with
  | ok d x =>
    rw [Session.discard_of_ok hu]
    rfl
  | error e x => rw [Session.discard_of_error hu]

end

/-- Assigning a given index fails and leaves the registry as it was, or hands out an index that was
neither handed out before nor revoked; on demand, the index is published. -/
theorem assign_some_or_error (tails : TailsSource σ) (r : Registry) (i : Int) (s : σ) :
    (∃ e t, assign tails (some i) (r, s) = .error e (r, t)) ∨
    ∃ r' t, assign tails (some i) (r, s) = .ok i (r'.handOut i, t) ∧
      i ∈ IndexSet.upTo r.capacity ∧ ¬ i ∈ r.assigned ∧ ¬ i ∈ r.revoked ∧
      (r.issuance = .byDefault ∧ r' = r ∨ r.issuance = .onDemand ∧
        ∃ d, d.issued = .ofList [i] ∧ d.revoked = ∅ ∧ PublishesFrom tails r s d r' t) := by
  cases hcheck : checkIndex i r.capacity with
  | error e => exact .inl ⟨e, s, assign_of_outOfRange tails s hcheck⟩
  | ok _ =>
    have hi := checkIndex_eq_ok_iff_mem.mp hcheck
    cases ht : r.isTaken i with
    | true => exact .inl ⟨_, s, assign_of_taken tails s hi ht⟩
    | false =>
      obtain ⟨hassigned, hrevoked⟩ := isTaken_eq_false.mp ht
      cases hk : r.issuance with
      | byDefault =>
        exact .inr ⟨r, s, assign_of_byDefault tails s hi ht hk, hi, hassigned, hrevoked,
          .inl ⟨rfl, rfl⟩⟩
      | onDemand =>
        rw [assign_of_onDemand tails s hi ht hk]
        rcases update_or_error tails r (.ofList [i]) ∅ s with
          ⟨e, t, hu⟩ | ⟨d, r', t, hu, hd, hd', hp⟩
        · rw [hu]
          exact .inl ⟨e, t, rfl⟩
        · rw [hu]
          exact .inr ⟨r', t, rfl, hi, hassigned, hrevoked, .inr ⟨rfl, d, hd, hd', hp⟩⟩

/-- What assigning an index comes to, whether the index is given or not. -/
theorem assign_or_error (tails : TailsSource σ) (r : Registry) (index : Option Int) (s : σ) :
    (∃ e t, assign tails index (r, s) = .error e (r, t)) ∨
    ∃ i r' t, assign tails index (r, s) = .ok i (r'.handOut i, t) ∧
      i ∈ IndexSet.upTo r.capacity ∧ ¬ i ∈ r.assigned ∧ ¬ i ∈ r.revoked ∧
      (r.issuance = .byDefault ∧ r' = r ∨ r.issuance = .onDemand ∧
        ∃ d, d.issued = .ofList [i] ∧ d.revoked = ∅ ∧ PublishesFrom tails r s d r' t) := by
  cases index with
  | some i =>
    rcases assign_some_or_error tails r i s with h | ⟨r', t, h⟩
    · exact .inl h
    · exact .inr ⟨i, r', t, h⟩
  | none =>
    rw [assign_none]
    cases r.free? with
    | none => exact .inl ⟨_, s, rfl⟩
    | some i =>
      rcases assign_some_or_error tails r i s with h | ⟨r', t, h⟩
      · exact .inl h
      · exact .inr ⟨i, r', t, h⟩

theorem assign_cases {tails : TailsSource σ} {entry : Int → Int}
    (hc : tails.Consistent entry r.capacity) (index : Option Int) (s : σ) :
    (∃ e t, assign tails index (r, s) = .error e (r, t)) ∨
    ∃ i r' t, assign tails index (r, s) = .ok i (r'.handOut i, t) ∧
      i ∈ IndexSet.upTo r.capacity ∧ ¬ i ∈ r.assigned ∧ ¬ i ∈ r.revoked ∧
      (r.issuance = .byDefault ∧ r' = r ∨ r.issuance = .onDemand ∧
        ∃ d, d.issued = .ofList [i] ∧ d.revoked = ∅ ∧ Publishes entry r d r') := by
  rcases assign_or_error tails r index s with
    h | ⟨i, r', t, ha, hi, hassigned, hrevoked, hkept | ⟨hk, d, hd, hd', hp⟩⟩
  · exact .inl h
  · exact .inr ⟨i, r', t, ha, hi, hassigned, hrevoked, .inl hkept⟩
  · exact .inr ⟨i, r', t, ha, hi, hassigned, hrevoked, .inr ⟨hk, d, hd, hd', hp.publishes hc⟩⟩

end Registry

theorem Witness.verify_inner {ρ σ : Type} (m : Modulus) (tails : TailsSource σ) (w : Witness)
    (accumulator : Int) :
    w.verify m (TailsSource.inner (ρ := ρ) tails) accumulator =
      Session.inner (w.verify m tails accumulator) := by
  simp only [verify, completed, Session.inner_bind]
  rfl

theorem Witness.create_inner {ρ σ : Type} (m : Modulus) (tails : TailsSource σ) (index : Int)
    (issued : List Int) (accumulator capacity : Int) :
    create m (TailsSource.inner (ρ := ρ) tails) index issued accumulator capacity =
      Session.inner (create m tails index issued accumulator capacity) := by
  simp only [create, Session.inner_bind, Session.inner_ofExcept, TailsSource.inner_including,
    verify_inner]
  congr 1
  funext _
  congr 1
  funext omega
  congr 1
  funext valid
  cases valid <;> rfl

namespace Registry

variable {σ : Type} {tails : TailsSource σ} {index : Option Int} {r r' : Registry} {s u : σ}

theorem issueCredential_of_error {e : Failure} {x : Registry × σ}
    (h : assign tails index (r, s) = .error e x) :
    issueCredential tails index (r, s) = .error e x :=
  Session.bind_of_error h _

theorem issueCredential_of_assign {i : Int} (h : assign tails index (r, s) = .ok i (r', u)) :
    issueCredential tails index (r, s) =
      match Witness.create r'.modulus tails i r'.issued.toList r'.accumulator r'.capacity u with
      | .ok w t => .ok ⟨w, some r'.id, r'.accumulator⟩ (r', t)
      | .error e t => .error e (r', t) := by
  rw [issueCredential, Session.bind_of_ok h]
  simp only [Session.bind_apply, Session.get_apply, Witness.create_inner, Session.inner]
  cases Witness.create r'.modulus tails i r'.issued.toList r'.accumulator r'.capacity u <;> rfl

/-- Whatever becomes of the witness, issuing a credential leaves the registry that assigning its
index leaves. -/
theorem after_issueCredential (tails : TailsSource σ) (index : Option Int) (r : Registry) (s : σ) :
    ((issueCredential tails index).after (r, s)).1 = ((assign tails index).after (r, s)).1 := by
  cases ha : assign tails index (r, s) with
  | error e x =>
    rw [Session.after_of_error ha, Session.after_of_error (issueCredential_of_error ha)]
  | ok i x =>
    obtain ⟨r', t⟩ := x
    rw [Session.after_of_ok ha, Session.after, issueCredential_of_assign ha]
    cases Witness.create r'.modulus tails i r'.issued.toList r'.accumulator r'.capacity t <;> rfl

end Registry
end Revocation
