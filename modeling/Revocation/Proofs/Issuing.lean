import Revocation.Proofs.Assignment
import Revocation.Proofs.Fetching

/-!
Issuing a credential over tails that may fail at any time. An index is handed out first and its
witness is computed after that, with entries that are fetched for it; whatever fails in between can
be made up for, since the witness is given by the registry alone. Main statements:
`create_or_error`, `assign_again` and `recoverable_of_run`.
-/
namespace Revocation

namespace TailsSource

/-- Answers from a list of entries as often as its state says, and then no more. -/
def rationed (entries : List Int) : TailsSource Nat := fun index left =>
  match left with
  | 0 => .error (.tails (.unavailable index)) 0
  | left + 1 => ofList entries index left

theorem rationed_consistent (entries : List Int) :
    (rationed entries).Consistent (entryIn entries) entries.length := by
  intro i hi left a left' h
  cases left with
  | zero => cases h
  | succ left =>
    rw [rationed, ofList, entryAt_eq_ok hi] at h
    cases h
    rfl

theorem rationed_neverJudges (entries : List Int) : (rationed entries).NeverJudges := by
  intro i left e left' h
  cases left with
  | zero =>
    cases h
    rfl
  | succ left =>
    have herror := Session.eq_error_of_ofExcept h
    rw [entryAt] at herror
    split at herror
    · cases herror
      rfl
    · split at herror <;> cases herror
      rfl

end TailsSource

namespace Witness

variable {σ : Type} {m : Modulus} {entry : Int → Int} {capacity : Nat} {tails : TailsSource σ}
  {i : Int} {issued : IndexSet} {s t : σ} {e : Failure}

/-- The witness of an index that is issued comes out, or an entry cannot be had. -/
theorem create_or_error (hc : tails.Consistent entry capacity) (hi : i ∈ issued)
    (his : ∀ k, k ∈ issued → k ∈ IndexSet.upTo capacity) (s : σ) :
    let created := create m tails i issued.toList (m.accumulated entry issued) capacity s
    (∃ t, created = .ok ⟨i, m.accumulated entry (issued.erase i)⟩ t) ∨
      ∃ e t k u, created = .error e t ∧ tails k u = .error e t := by
  have hothers : ∀ k, k ∈ (issued.erase i).toList → k ∈ IndexSet.upTo capacity :=
    fun k hk => his k (IndexSet.mem_erase.mp hk).1
  have hcheck := checkIndex_eq_ok_iff_mem.mpr (his i hi)
  simp only [create, IndexSet.ofList_toList, hcheck, Session.bind_of_ok (Session.ofExcept_ok () s)]
  cases hincluding : tails.including m Modulus.identity (issued.erase i).toList s with
  | error e t =>
    obtain ⟨k, u, hfetch⟩ := TailsSource.including_eq_error hincluding
    exact .inr ⟨e, t, k, u, Session.bind_of_error hincluding _, hfetch⟩
  | ok omega u =>
    have homega := TailsSource.including_eq_ok hc hothers hincluding
    rw [Modulus.multiply_identity] at homega
    subst homega
    rw [Session.bind_of_ok hincluding]
    cases hverify : verify m tails ⟨i, m.accumulated entry (issued.erase i)⟩
        (m.accumulated entry issued) u with
    | error e t =>
      exact .inr ⟨e, t, i, u, Session.bind_of_error hverify _, verify_eq_error hverify⟩
    | ok valid t =>
      have hvalid : Valid m entry ⟨i, m.accumulated entry (issued.erase i)⟩
          (m.accumulated entry issued) := Modulus.combine_accumulated_erase hi
      have hresult := verify_eq_ok (hc.gives (his i hi)) hverify
      rw [decide_eq_true hvalid] at hresult
      subst hresult
      exact .inl ⟨t, Session.bind_of_ok hverify _⟩

end Witness

namespace Registry

variable {σ : Type} {tails : TailsSource σ} {entry : Int → Int} {r r' : Registry} {s t u : σ}
  {index : Option Int} {i : Int} {e : Failure}

theorem Coherent.marked (h : Coherent entry r) : r.Marked := by
  intro hk i hi
  rw [h.onDemand hk, IndexSet.mem_union]
  exact .inl hi

/-- What has been handed out is in the accumulator. -/
theorem mem_issued_of_assign (hr : Coherent entry r)
    (h : assign tails index (r, s) = .ok i (r', t)) : i ∈ r'.issued := by
  rcases assign_or_error tails r index s with
    ⟨e, u, ha⟩ | ⟨j, r'', u, ha, hj, -, hrevoked, ⟨hk, rfl⟩ | ⟨-, d, hd, hd', hp⟩⟩
  · cases h.symm.trans ha
  · cases h.symm.trans ha
    obtain ⟨hall, -⟩ := hr.byDefault hk
    rw [← hall, IndexSet.mem_union] at hj
    exact hj.resolve_right hrevoked
  · cases h.symm.trans ha
    obtain ⟨l, -, rfl⟩ := publish_eq_ok.mp hp.result
    simp [handOut, hd, hd']

theorem coherent_of_assign (hc : tails.Consistent entry r.capacity) (hr : Coherent entry r)
    (h : assign tails index (r, s) = .ok i (r', t)) : Coherent entry r' :=
  ((change_of_assign h).step hc).coherent hr

theorem isInvalidWitness_of_checkIndex {capacity : Int} (h : checkIndex i capacity = .error e) :
    e.isInvalidWitness = false := by
  rw [checkIndex] at h
  split at h
  · cases h
    rfl
  · split at h <;> cases h
    rfl

/-- No index is refused as if a witness for it proved nothing. -/
theorem isInvalidWitness_of_assign {x : Registry × σ} (hm : r.Marked) (hown : tails.NeverJudges)
    (h : assign tails index (r, s) = .error e x) : e.isInvalidWitness = false := by
  have hassigns := assigns hm tails s
  cases index with
  | none =>
    rw [assign_none] at h
    cases hf : r.free? with
    | none =>
      rw [hf] at h
      cases h
      rfl
    | some i =>
      rw [hf] at h
      obtain ⟨t, hfetch⟩ := hassigns.error_of_free (free?_eq_some.mp hf).1 h
      exact hown i s e t hfetch
  | some i =>
    cases hcheck : checkIndex i r.capacity with
    | error e' =>
      rw [assign_of_outOfRange tails s hcheck] at h
      cases h
      exact isInvalidWitness_of_checkIndex hcheck
    | ok _ =>
      have hi := checkIndex_eq_ok_iff_mem.mp hcheck
      by_cases htaken : i ∈ r.assigned ∨ i ∈ r.revoked
      · cases h.symm.trans (hassigns.taken i hi htaken)
        rfl
      · have hfree := mem_free.mpr ⟨hi, not_or.mp htaken⟩
        obtain ⟨t, hfetch⟩ := hassigns.error_of_free hfree h
        exact hown i s e t hfetch

/-- An index that is handed out might as well have been named. -/
theorem assign_named {x : Registry × σ} (h : assign tails index (r, s) = .ok i x) {τ : Type}
    (tails' : TailsSource τ) (v : τ) :
    assign tails' index (r, v) = assign tails' (some i) (r, v) := by
  have hsome : ∀ j, assign tails (some j) (r, s) = .ok i x → j = i := by
    intro j hj
    rcases assign_some_or_error tails r j s with ⟨e, t, ha⟩ | ⟨r', t, ha, -⟩
    · cases hj.symm.trans ha
    · cases hj.symm.trans ha
      rfl
  cases index with
  | some j => rw [hsome j h]
  | none =>
    rw [assign_none] at h ⊢
    cases hf : r.free? with
    | none =>
      rw [hf] at h
      cases h
    | some j =>
      rw [hf] at h
      rw [hsome j h]

/-- On demand an index is handed out by its entry, wherever that comes from. -/
theorem exists_assign_of_fetched (hf : i ∈ r.free) (hm : r.Marked) (hk : r.issuance = .onDemand)
    (a : Int) : ∃ r', ∀ {τ : Type} (tails : TailsSource τ) v v', tails i v = .ok a v' →
      assign tails (some i) (r, v) = .ok i (r', v') := by
  have hallows := allows_of_free hf hm hk
  obtain ⟨hi, htaken⟩ := mem_free.mp hf
  obtain ⟨r', hr'⟩ := exists_publish (r := r) (d := ⟨r.accumulator,
    r.modulus.combine r.accumulator a, .ofList [i], ∅, hallows.disjoint⟩) rfl
  refine ⟨r'.handOut i, fun tails v v' hfetch => ?_⟩
  have hmoved := moved_singleton tails r i v
  rw [hfetch] at hmoved
  obtain ⟨r'', hr'', hupdate⟩ := update_of_moved hallows hmoved
  cases hr''.symm.trans hr'
  rw [assign_of_onDemand tails v hi (isTaken_eq_false.mpr htaken) hk, hupdate]

/-- Any source that answers makes the same index be handed out, with the same effect. -/
theorem assign_again (hc : tails.Consistent entry r.capacity) (hm : r.Marked)
    (h : assign tails index (r, s) = .ok i (r', t)) {τ : Type} {tails' : TailsSource τ}
    {good : τ → Prop} (ha : tails'.Answers entry r.capacity good) {v : τ} (hv : good v) :
    ∃ v', assign tails' index (r, v) = .ok i (r', v') ∧ good v' := by
  obtain ⟨hfree, -⟩ := sets_of_assign h
  obtain ⟨hi, htaken⟩ := mem_free.mp hfree
  have hnamed := assign_named h tails' v
  simp only [hnamed]
  rw [assign_named h tails s] at h
  cases hk : r.issuance with
  | byDefault =>
    cases h.symm.trans (assign_of_byDefault tails s hi (isTaken_eq_false.mpr htaken) hk)
    exact ⟨v, assign_of_byDefault tails' v hi (isTaken_eq_false.mpr htaken) hk, hv⟩
  | onDemand =>
    obtain ⟨r'', hr''⟩ := exists_assign_of_fetched hfree hm hk (entry i)
    cases hfetch : tails i s with
    | error e u =>
      have hfree := assign_of_free tails hfree hm s
      rw [hk, hfetch] at hfree
      cases h.symm.trans hfree
    | ok a u =>
      rw [hc i hi s a u hfetch] at hfetch
      cases h.symm.trans (hr'' tails s u hfetch)
      obtain ⟨v', hfetch', hv'⟩ := ha i hi v hv
      exact ⟨v', hr'' tails' v v' hfetch', hv'⟩

/-- The witness for an index that has been handed out can be had from the registry, and is the one
that handing it out would have come with. -/
structure Recovers (entry : Int → Int) (index : Option Int) (r : Registry) (i : Int)
    (r' : Registry) (w : Witness) : Prop where
  created : ∀ (τ : Type) (tails : TailsSource τ) (good : τ → Prop),
    tails.Answers entry r'.capacity good →
      (Witness.create r'.modulus tails i r'.issued.toList r'.accumulator r'.capacity).Yields good w
  issued : ∀ (τ : Type) (tails : TailsSource τ) (good : τ → Prop),
    tails.Answers entry r.capacity good → ∀ v, good v →
      ∃ v', issueCredential tails index (r, v) = .ok ⟨w, some r'.id, r'.accumulator⟩ (r', v') ∧
        good v'

/-- What comes of issuing a credential, and what is left of it if it fails. -/
structure Recoverable (tails : TailsSource σ) (entry : Int → Int) (index : Option Int)
    (r : Registry) (s : σ) : Prop where
  never : tails.NeverJudges → ∀ e x, issueCredential tails index (r, s) = .error e x →
    e.isInvalidWitness = false
  issued : ∀ b r' t, issueCredential tails index (r, s) = .ok b (r', t) →
    (∃ u, assign tails index (r, s) = .ok b.witness.index (r', u)) ∧
      b.registryId = some r'.id ∧ b.reference = r'.accumulator ∧
      b.witness.Valid r'.modulus entry r'.accumulator ∧
      ∀ v valid v', b.witness.verify r'.modulus tails r'.accumulator v = .ok valid v' → valid = true
  failed : ∀ e r' t, issueCredential tails index (r, s) = .error e (r', t) →
    assign tails index (r, s) = .error e (r', t) ∧ r' = r ∨
    ∃ i u, assign tails index (r, s) = .ok i (r', u) ∧ (∃ k v, tails k v = .error e t) ∧
      ∃ w, Recovers entry index r i r' w

theorem recovers_of_assign (hc : tails.Consistent entry r.capacity) (hr : Coherent entry r)
    (h : assign tails index (r, s) = .ok i (r', u)) :
    Recovers entry index r i r' ⟨i, r'.modulus.accumulated entry (r'.issued.erase i)⟩ := by
  have hr' := coherent_of_assign hc hr h
  have hi := mem_issued_of_assign hr h
  have hcapacity := (change_of_assign h).sameTerms.capacity
  have hcreated : ∀ (τ : Type) (tails : TailsSource τ) (good : τ → Prop),
      tails.Answers entry r'.capacity good →
        (Witness.create r'.modulus tails i r'.issued.toList r'.accumulator r'.capacity).Yields good
          ⟨i, r'.modulus.accumulated entry (r'.issued.erase i)⟩ := by
    intro τ tails good ha
    rw [hr'.accumulator]
    exact Witness.create_yields ha hi hr'.issued_inRange
  refine ⟨hcreated, fun τ tails' good ha v hv => ?_⟩
  obtain ⟨v₁, hassign, hv₁⟩ := assign_again hc hr.marked h ha hv
  rw [← hcapacity] at ha
  obtain ⟨v₂, hcreate, hv₂⟩ := hcreated τ tails' good ha v₁ hv₁
  rw [issueCredential_of_assign hassign, hcreate]
  exact ⟨v₂, rfl, hv₂⟩

theorem recoverable_of_refused {x : Registry × σ} (hm : r.Marked)
    (ha : assign tails index (r, s) = .error e x) : Recoverable tails entry index r s := by
  have hissue := issueCredential_of_error ha
  constructor
  case never =>
    intro hown e' x' h
    cases hissue.symm.trans h
    exact isInvalidWitness_of_assign hm hown ha
  case issued =>
    intro b r' t h
    cases hissue.symm.trans h
  case failed =>
    intro e' r' t h
    cases hissue.symm.trans h
    exact .inl ⟨ha, (assigns hm tails s).unchanged index e (r', t) ha⟩

theorem recoverable_of_assign (hc : tails.Consistent entry r.capacity) (hr : Coherent entry r)
    (ha : assign tails index (r, s) = .ok i (r', u)) : Recoverable tails entry index r s := by
  have hr' := coherent_of_assign hc hr ha
  have hi := mem_issued_of_assign hr ha
  have hrange := hr'.issued_inRange
  have hissue := issueCredential_of_assign ha
  have hrecovers := recovers_of_assign hc hr ha
  rw [← (change_of_assign ha).sameTerms.capacity] at hc
  -- The witness is the one that is there to be had, or an entry for it is missing.
  rcases Witness.create_or_error (m := r'.modulus) hc hi hrange u with
    ⟨t, hcreate⟩ | ⟨e, t, k, v, hcreate, hfetch⟩
  · rw [← hr'.accumulator] at hcreate
    rw [hcreate] at hissue
    constructor
    case never =>
      intro _ e x h
      cases hissue.symm.trans h
    case issued =>
      intro b r'' t' h
      cases hissue.symm.trans h
      have hvalid : Witness.Valid r'.modulus entry
          ⟨i, r'.modulus.accumulated entry (r'.issued.erase i)⟩ r'.accumulator :=
        (Modulus.combine_accumulated_erase hi).trans hr'.accumulator.symm
      refine ⟨⟨u, ha⟩, rfl, rfl, hvalid, fun v valid v' hverify => ?_⟩
      rw [Witness.verify_eq_ok (hc.gives (hrange i hi)) hverify, decide_eq_true hvalid]
    case failed =>
      intro e r'' t' h
      cases hissue.symm.trans h
  · rw [← hr'.accumulator] at hcreate
    rw [hcreate] at hissue
    constructor
    case never =>
      intro hown e' x h
      cases hissue.symm.trans h
      exact hown k v e t hfetch
    case issued =>
      intro b r'' t' h
      cases hissue.symm.trans h
    case failed =>
      intro e' r'' t' h
      cases hissue.symm.trans h
      exact .inr ⟨i, u, ha, ⟨k, v, hfetch⟩, _, hrecovers⟩

/-- In every state of a run: a credential fails to be issued only before its index is handed out, or
for want of an entry after that; then its witness can be made as soon as the entries can be had, and
it is the one that would have been issued. -/
theorem recoverable_of_run {m : Modulus} {id : String} {capacity : Int} {issuance : Issuance}
    {limit : Option Int} (hc : tails.Consistent entry capacity.toNat)
    (hs : start m tails id capacity issuance limit s = .ok r t) (calls : List Call)
    (index : Option Int) (v : σ) :
    Recoverable tails entry index (performAll tails calls (r, t)).1 v := by
  obtain ⟨hr, -, hcapacity, -⟩ := coherent_of_run hc hs calls
  rw [← hcapacity] at hc
  cases ha : assign tails index ((performAll tails calls (r, t)).1, v) with
  | error e x => exact recoverable_of_refused hr.marked ha
  | ok i x => exact recoverable_of_assign hc hr ha

/-- Modulo 15: after a revocation one more entry can be had, which is not enough for the witness of
the index that is handed out. -/
theorem recoverable_of_run_fifteen :
    let tails := TailsSource.rationed [2, 4, 7]
    let entry := TailsSource.entryIn [2, 4, 7]
    tails.Consistent entry (3 : Int).toNat ∧ tails.NeverJudges ∧
      ∃ r t, start ⟨15, by decide⟩ tails "registry" 3 .byDefault none 5 = .ok r t ∧
        let r' := (performAll tails [.revoke (.ofList [2])] (r, t)).1
        (issueCredential tails none).outcome (r', 1) = .error (.tails (.unavailable 1)) ∧
          Recoverable tails entry none r' 1 := by
  intro tails entry
  have hc := TailsSource.rationed_consistent [2, 4, 7]
  have hs : start ⟨15, by decide⟩ tails "registry" 3 .byDefault none 5 = .ok _ _ := rfl
  refine ⟨hc, TailsSource.rationed_neverJudges _, _, _, hs, ?_, recoverable_of_run hc hs _ none 1⟩
  decide +kernel

end Registry
end Revocation
