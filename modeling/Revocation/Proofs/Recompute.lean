import Revocation.Proofs.Chronicle

/-!
Witnesses along a history. What a recomputer does to the value of a witness is a function on
elements, `carried?`; a walk of a registry's history never makes it fail, and decides by its ends
alone whether it mentions an index. Main statements: `Walk.checkOwn_eq`, `Walk.recompute_yields` and
`Walk.carried_erase`, by which a witness that is carried along is the one computed afresh.
-/
namespace Revocation

namespace Witness

variable {σ : Type} {m : Modulus} {entry : Int → Int} {capacity : Nat} {tails : TailsSource σ}
  {good : σ → Prop} {i : Int} {issued : IndexSet}

/-- That the witness proves its index for the value. -/
def Valid (m : Modulus) (entry : Int → Int) (w : Witness) (value : Int) : Prop :=
  m.combine w.omega (entry w.index) = value

instance (w : Witness) (value : Int) : Decidable (w.Valid m entry value) :=
  inferInstanceAs (Decidable (_ = _))

theorem completed_yields {w : Witness} (hi : (tails w.index).Yields good (entry w.index)) :
    (w.completed m tails).Yields good (m.combine w.omega (entry w.index)) :=
  hi.bind (Session.yields_pure (m.combine w.omega (entry w.index)))

theorem verify_yields (ha : tails.Answers entry capacity good) {w : Witness}
    (hi : w.index ∈ IndexSet.upTo capacity) (value : Int) :
    (w.verify m tails value).Yields good (decide (w.Valid m entry value)) :=
  (completed_yields (ha w.index hi)).bind (Session.yields_pure (decide (w.Valid m entry value)))

theorem create_yields (ha : tails.Answers entry capacity good) (hi : i ∈ issued)
    (his : ∀ k, k ∈ issued → k ∈ IndexSet.upTo capacity) :
    (create m tails i issued.toList (m.accumulated entry issued) capacity).Yields good
      ⟨i, m.accumulated entry (issued.erase i)⟩ := by
  have hrange : ∀ k, k ∈ (issued.erase i).toList → k ∈ IndexSet.upTo capacity :=
    fun k hk => his k (IndexSet.mem_erase.mp hk).1
  have hvalid : (⟨i, m.accumulated entry (issued.erase i)⟩ : Witness).Valid m entry
      (m.accumulated entry issued) := Modulus.combine_accumulated_erase hi
  have homega := TailsSource.including_yields (m := m) (a := Modulus.identity)
    fun k hk => ha k (hrange k hk)
  have hverify := verify_yields (m := m) ha (w := ⟨i, m.accumulated entry (issued.erase i)⟩)
    (his i hi) (m.accumulated entry issued)
  rw [Modulus.multiply_identity] at homega
  rw [decide_eq_true hvalid] at hverify
  simp only [create, IndexSet.ofList_toList]
  refine (Session.yields_ofExcept (checkIndex_eq_ok_iff_mem.mpr (his i hi))).bind ?_
  exact homega.bind (hverify.bind (Session.yields_pure _))

end Witness

namespace Recomputer

variable {σ : Type} {m : Modulus} {entry : Int → Int} {capacity : Nat} {c : Recomputer σ}
  {good : σ → Prop} {omega omega' : Int} {d : Delta Int} {ds : List (Delta Int)}

def absorbed? (m : Modulus) (entry : Int → Int) (omega : Int) (d : Delta Int) : Option Int :=
  (m.divide? omega (d.revoked.toList.map entry)).map fun v =>
    m.multiply v (d.issued.toList.map entry)

def carried? (m : Modulus) (entry : Int → Int) (omega : Int) (ds : List (Delta Int)) : Option Int :=
  ds.foldlM (absorbed? m entry) omega

theorem carried?_cons : carried? m entry omega (d :: ds) =
    (absorbed? m entry omega d).bind fun v => carried? m entry v ds :=
  List.foldlM_cons

theorem carried?_append (es : List (Delta Int)) : carried? m entry omega (ds ++ es) =
    (carried? m entry omega ds).bind fun v => carried? m entry v es :=
  List.foldlM_append

theorem absorb_keeps {P : σ → Prop} {s t : σ}
    (hP : ∀ i, i ∈ d.issued ∨ i ∈ d.revoked → ∀ s a t, P s → c.tails i s = .ok a t → P t)
    (hs : P s) (h : c.absorb omega d s = .ok omega' t) : P t := by
  obtain ⟨v, u, hout, hin⟩ := Session.bind_eq_ok.mp h
  have hu : P u := TailsSource.excluding_keeps (fun i hi => hP i (.inr hi)) hs hout
  exact TailsSource.including_keeps (fun i hi => hP i (.inl hi)) hu hin

theorem absorb_settles
    (hd : ∀ i, i ∈ d.issued ∨ i ∈ d.revoked → (c.tails i).Yields good (entry i)) :
    (c.absorb omega d).Settles good
      (Modulus.orNotInvertible (absorbed? c.modulus entry omega d)) := by
  rw [absorbed?, Option.map_eq_bind, Modulus.orNotInvertible_bind]
  refine (TailsSource.excluding_settles fun i hi => hd i (.inr hi)).bind fun v _ => ?_
  exact Session.settles_ok_iff.mpr (TailsSource.including_yields fun i hi => hd i (.inl hi))

theorem foldlM_absorb_settles
    (hds : ∀ d, d ∈ ds → ∀ i, i ∈ d.issued ∨ i ∈ d.revoked → (c.tails i).Yields good (entry i)) :
    (ds.foldlM c.absorb omega).Settles good
      (Modulus.orNotInvertible (carried? c.modulus entry omega ds)) := by
  induction ds generalizing omega with
  | nil => exact Session.settles_ok_iff.mpr (Session.yields_pure omega)
  | cons d ds ih =>
    obtain ⟨hd, hds⟩ := List.forall_mem_cons.mp hds
    rw [List.foldlM_cons, carried?_cons, Modulus.orNotInvertible_bind]
    exact (absorb_settles hd).bind fun v _ => ih hds

/-- What a recompute comes to over a source that answers with these entries. -/
def recomputed (m : Modulus) (entry : Int → Int) (registry : Option String) (w : Witness)
    (accumulator : Option Int) (ds : List (Delta Int)) : Except Failure (Witness × Int) := do
  Delta.checkChain ds accumulator none
  checkOwn registry w.index ds
  let omega ← Modulus.orNotInvertible (carried? m entry w.omega ds)
  let reached := m.combine omega (entry w.index)
  if target accumulator ds = some reached then return (⟨w.index, omega⟩, reached)
  throw (.updatedWitnessInvalid w.index)

/-- A recompute depends on its source by the entries of the indices that it asks for only. -/
theorem recompute_settles {w : Witness} (accumulator : Option Int)
    (hown : (c.tails w.index).Yields good (entry w.index))
    (hds : ∀ d, d ∈ ds → ∀ i, i ∈ d.issued ∨ i ∈ d.revoked → (c.tails i).Yields good (entry i)) :
    (c.recompute w accumulator ds).Settles good
      (recomputed c.modulus entry c.registry w accumulator ds) := by
  refine (Session.settles_ofExcept _).bind fun _ _ => ?_
  refine (Session.settles_ofExcept _).bind fun _ _ => ?_
  refine (foldlM_absorb_settles hds).bind fun omega _ => ?_
  have hcompleted := Witness.completed_yields (m := c.modulus) (w := ⟨w.index, omega⟩) hown
  refine hcompleted.bind_settles ?_
  dsimp only
  split
  · exact Session.settles_ofExcept (.ok _)
  · exact Session.settles_ofExcept (.error _)

theorem target_eq (v : Int) (ds : List (Delta Int)) :
    target (some v) ds = some (Delta.finish v ds) := by
  cases ds with
  | nil => rfl
  | cons d ds =>
    rw [← Delta.last_target, target, List.getLast?_eq_some_getLast (List.cons_ne_nil d ds)]
    rfl

theorem recomputed_eq_ok {registry : Option String} {w : Witness} {value : Int}
    (hlinked : Delta.Linked value ds) (hown : checkOwn registry w.index ds = .ok ())
    (hcarried : carried? m entry w.omega ds = some omega)
    (hvalid : Witness.Valid m entry ⟨w.index, omega⟩ (Delta.finish value ds)) :
    recomputed m entry registry w (some value) ds =
      .ok (⟨w.index, omega⟩, Delta.finish value ds) := by
  rw [← hvalid, recomputed, hlinked.checkChain (by simp), hown, hcarried, target_eq, ← hvalid]
  exact if_pos rfl

theorem checkOwn_eq_ok {registry : Option String} {own : Int}
    (h : ∀ d, d ∈ ds → ¬ own ∈ d.issued ∧ ¬ own ∈ d.revoked) :
    checkOwn registry own ds = .ok () := by
  induction ds with
  | nil => rfl
  | cons d ds ih =>
    obtain ⟨⟨hissued, hrevoked⟩, hds⟩ := List.forall_mem_cons.mp h
    rw [checkOwn, if_neg hrevoked, if_neg hissued, ih hds]

theorem apart_of_checkOwn {registry : Option String} {own : Int}
    (h : checkOwn registry own ds = .ok ()) :
    ∀ d, d ∈ ds → ¬ own ∈ d.issued ∧ ¬ own ∈ d.revoked := by
  induction ds with
  | nil => exact List.forall_mem_nil _
  | cons d ds ih =>
    rw [checkOwn] at h
    split at h
    · cases h
    · next hrevoked =>
      split at h
      · cases h
      · next hissued => exact List.forall_mem_cons.mpr ⟨⟨hissued, hrevoked⟩, ih h⟩

theorem checkOwn_eq_error {registry : Option String} {own : Int} {e : Failure}
    (h : checkOwn registry own ds = .error e) :
    e = .revoked own registry ∨ e = .inconsistent (.issuesOwn own) := by
  induction ds with
  | nil => cases h
  | cons d ds ih =>
    rw [checkOwn] at h
    split at h
    · cases h
      exact .inl rfl
    · split at h
      · cases h
        exact .inr rfl
      · exact ih h

theorem recompute_of_own {w : Witness} {accumulator : Option Int} {e : Failure}
    (hchain : Delta.checkChain ds accumulator none = .ok ())
    (hown : checkOwn c.registry w.index ds = .error e) (s : σ) :
    c.recompute w accumulator ds s = .error e s := by
  rw [recompute, hchain, hown]
  rfl

theorem recompute_eq_error {w : Witness} {value : Int} {e : Failure}
    (hlinked : Delta.Linked value ds) (hown : checkOwn c.registry w.index ds = .error e) (s : σ) :
    c.recompute w (some value) ds s = .error e s :=
  recompute_of_own (hlinked.checkChain (by simp)) hown s

theorem weight_absorbed? (h : absorbed? m entry omega d = some omega') :
    (omega' : ZMod m.value) * m.weight entry d.revoked = omega * m.weight entry d.issued := by
  obtain ⟨v, hv, rfl⟩ := Option.map_eq_some_iff.mp h
  have hout := Modulus.mul_divide? hv
  rw [Modulus.prod_cast_entries] at hout
  rw [Modulus.cast_multiply, Modulus.prod_cast_entries, mul_right_comm, hout]

end Recomputer

namespace Delta

open Recomputer

variable {m : Modulus} {entry : Int → Int} {d : Delta Int} {ds : List (Delta Int)}
  {omega omega' value : Int}

/-- The values of the delta differ by just what it issues and revokes, and all that it revokes has
an inverse. -/
def Balanced (m : Modulus) (entry : Int → Int) (d : Delta Int) : Prop :=
  m.divide? (m.multiply d.source (d.issued.toList.map entry)) (d.revoked.toList.map entry) =
    some d.target

theorem Balanced.coprime (h : d.Balanced m entry) :
    ∀ i, i ∈ d.revoked → IsCoprime (entry i) m.value := by
  intro i hi
  exact (Modulus.exists_divide?_iff _ _).mp ⟨_, h⟩ _ (List.mem_map_of_mem hi)

theorem Balanced.weight (h : d.Balanced m entry) :
    (d.target : ZMod m.value) * m.weight entry d.revoked = d.source * m.weight entry d.issued := by
  have hvalue := Modulus.mul_divide? h
  rwa [Modulus.prod_cast_entries, Modulus.cast_multiply, Modulus.prod_cast_entries] at hvalue

theorem Balanced.exists_absorbed (h : d.Balanced m entry) (omega : Int) :
    ∃ omega', absorbed? m entry omega d = some omega' := by
  have hunits : ∀ e, e ∈ d.revoked.toList.map entry → IsCoprime e m.value := by
    intro e he
    obtain ⟨i, hi, rfl⟩ := List.mem_map.mp he
    exact h.coprime i hi
  obtain ⟨v, hv⟩ := (Modulus.exists_divide?_iff omega _).mpr hunits
  exact ⟨_, Option.map_eq_some_iff.mpr ⟨v, hv, rfl⟩⟩

/-- Whatever completes a witness to the one value completes what becomes of it to the next. -/
theorem Balanced.completes (h : d.Balanced m entry) (ho : absorbed? m entry omega d = some omega')
    {e : ZMod m.value} (he : (omega : ZMod m.value) * e = d.source) :
    (omega' : ZMod m.value) * e = d.target := by
  have hunit : IsUnit (m.weight entry d.revoked) := Modulus.isUnit_weight h.coprime
  refine hunit.mul_right_cancel ?_
  calc (omega' : ZMod m.value) * e * m.weight entry d.revoked
      = omega' * m.weight entry d.revoked * e := mul_right_comm _ _ _
    _ = omega * e * m.weight entry d.issued := by
      rw [weight_absorbed? ho, mul_right_comm]
    _ = d.target * m.weight entry d.revoked := by rw [he, h.weight]

theorem isResidue_finish (hlinked : Linked value ds) (hds : ∀ d, d ∈ ds → d.Balanced m entry)
    (hv : m.IsResidue value) : m.IsResidue (finish value ds) := by
  induction ds generalizing value with
  | nil => exact hv
  | cons d ds ih =>
    obtain ⟨hd, hds⟩ := List.forall_mem_cons.mp hds
    obtain ⟨rfl, hlinked⟩ := hlinked
    exact ih hlinked hds (Modulus.isResidue_divide? (Modulus.isResidue_multiply hv _) hd)

/-- A chain of balanced deltas carries every witness along, wherever the deltas come from. -/
theorem exists_carried (hlinked : Linked value ds) (hds : ∀ d, d ∈ ds → d.Balanced m entry)
    (omega : Int) : ∃ omega', carried? m entry omega ds = some omega' ∧
      ∀ e : ZMod m.value, omega * e = value → omega' * e = finish value ds := by
  -- One and the same `e` goes through the whole chain: it stands for the entry of the own index.
  induction ds generalizing value omega with
  | nil => exact ⟨omega, rfl, fun _ he => he⟩
  | cons d ds ih =>
    obtain ⟨hd, hds⟩ := List.forall_mem_cons.mp hds
    obtain ⟨hsource, hlinked⟩ := hlinked
    obtain ⟨v, hv⟩ := hd.exists_absorbed omega
    obtain ⟨omega', hnext, hproves⟩ := ih hlinked hds v
    refine ⟨omega', ?_, fun e he => hproves e (hd.completes hv (he.trans ?_))⟩
    · rw [carried?_cons, hv]
      exact hnext
    · rw [hsource]

end Delta

namespace Recomputer

open Delta

variable {σ : Type} {entry : Int → Int} {c : Recomputer σ} {good : σ → Prop} {w : Witness}
  {value : Int} {ds : List (Delta Int)}

/-- A chain of balanced deltas carries a valid witness to a valid one. -/
theorem exists_carried_valid {m : Modulus} (hw : w.Valid m entry value) (hlinked : Linked value ds)
    (hds : ∀ d, d ∈ ds → d.Balanced m entry) (hresidue : m.IsResidue (finish value ds)) :
    ∃ omega, carried? m entry w.omega ds = some omega ∧
      Witness.Valid m entry ⟨w.index, omega⟩ (finish value ds) := by
  obtain ⟨omega, hcarried, hproves⟩ := exists_carried hlinked hds w.omega
  refine ⟨omega, hcarried, ?_⟩
  refine (m.isResidue_combine _ _).eq_of_cast hresidue ?_
  rw [Modulus.cast_combine]
  refine hproves _ ?_
  rw [← Modulus.cast_combine, hw]

/-- A valid witness gets over a chain of balanced deltas if its own index is not in the way. -/
theorem recompute_yields_of_balanced (hw : w.Valid c.modulus entry value)
    (hlinked : Linked value ds) (hds : ∀ d, d ∈ ds → d.Balanced c.modulus entry)
    (hresidue : c.modulus.IsResidue (finish value ds))
    (hown : checkOwn c.registry w.index ds = .ok ())
    (hfetch : (c.tails w.index).Yields good (entry w.index))
    (hfetches : ∀ d, d ∈ ds → ∀ i, i ∈ d.issued ∨ i ∈ d.revoked →
      (c.tails i).Yields good (entry i)) :
    ∃ omega, carried? c.modulus entry w.omega ds = some omega ∧
      Witness.Valid c.modulus entry ⟨w.index, omega⟩ (finish value ds) ∧
      (c.recompute w (some value) ds).Yields good (⟨w.index, omega⟩, finish value ds) := by
  obtain ⟨omega, hcarried, hvalid⟩ := exists_carried_valid hw hlinked hds hresidue
  refine ⟨omega, hcarried, hvalid, ?_⟩
  rw [← Session.settles_ok_iff, ← recomputed_eq_ok hlinked hown hcarried hvalid]
  exact recompute_settles _ hfetch hfetches

end Recomputer

namespace Checkpoint

open Delta Recomputer

variable {σ : Type} {m : Modulus} {entry : Int → Int} {capacity : Nat} {a b : Checkpoint}
  {d : Delta Int} {ds : List (Delta Int)} {i omega : Int}

theorem Advances.balanced (h : a.Advances m entry capacity d b) : d.Balanced m entry := by
  rw [Delta.Balanced, h.source, h.target]
  exact h.value

theorem Walk.balanced (h : Walk m entry capacity a ds b) : ∀ d, d ∈ ds → d.Balanced m entry := by
  induction h with
  | rest c => simp
  | step first next ih => exact List.forall_mem_cons.mpr ⟨first.balanced, ih⟩

/-- An index that is issued at the start of a walk is mentioned on the way only if it is revoked,
and then it is not issued at the end. -/
theorem Walk.checkOwn_eq (h : Walk m entry capacity a ds b) (hi : i ∈ a.issued)
    (registry : Option String) : checkOwn registry i ds =
      if i ∈ b.issued then .ok () else .error (.revoked i registry) := by
  induction h with
  | rest c => rw [if_pos hi, checkOwn]
  | step first next ih =>
    rw [checkOwn]
    split
    · next hd =>
      obtain ⟨hr, hb⟩ := first.revokes hd
      rw [if_neg (next.spent hr hb)]
    · next hd =>
      rw [if_neg fun hd' => first.fresh _ hd' hi]
      exact ih (first.keeps hi hd)

theorem Advances.absorbed_erase (h : a.Advances m entry capacity d b) (hi : i ∈ a.issued)
    (hd : ¬ i ∈ d.revoked) : absorbed? m entry (m.accumulated entry (a.issued.erase i)) d =
      some (m.accumulated entry (b.issued.erase i)) := by
  have hheld : ∀ k, k ∈ d.revoked → k ∈ a.issued.erase i := by
    intro k hk
    refine IndexSet.mem_erase.mpr ⟨h.held k hk, ?_⟩
    rintro rfl
    exact hd hk
  have hfresh : ∀ k, k ∈ d.issued → ¬ k ∈ (a.issued.erase i).diff d.revoked := by
    intro k hk hmem
    exact h.fresh k hk (IndexSet.mem_erase.mp (IndexSet.mem_diff.mp hmem).1).1
  have hset : ((a.issued.erase i).diff d.revoked).union d.issued = b.issued.erase i := by
    refine IndexSet.ext_mem fun k => ?_
    have hk := h.fresh k
    have hdisjoint := d.disjoint k
    rw [h.issued]
    simp only [IndexSet.mem_union, IndexSet.mem_diff, IndexSet.mem_erase]
    constructor
    · rintro (⟨⟨hka, hne⟩, hkr⟩ | hki)
      · exact ⟨⟨.inl hka, hkr⟩, hne⟩
      · refine ⟨⟨.inr hki, hdisjoint hki⟩, ?_⟩
        rintro rfl
        exact hk hki hi
    · rintro ⟨⟨hka | hki, hkr⟩, hne⟩
      · exact .inl ⟨⟨hka, hne⟩, hkr⟩
      · exact .inr hki
  rw [absorbed?, Modulus.divide?_accumulated hheld h.balanced.coprime, Option.map_some,
    Modulus.multiply_accumulated hfresh, hset]

theorem Walk.carried_erase (h : Walk m entry capacity a ds b) (hi : i ∈ a.issued)
    (hb : i ∈ b.issued) : carried? m entry (m.accumulated entry (a.issued.erase i)) ds =
      some (m.accumulated entry (b.issued.erase i)) := by
  induction h with
  | rest c => rfl
  | step first next ih =>
    have hd := first.not_mem_revoked next hb
    rw [carried?_cons, first.absorbed_erase hi hd]
    exact ih (first.keeps hi hd) hb

variable {c : Recomputer σ} {good : σ → Prop} {w : Witness}

/-- A valid witness gets over a walk that leads to a checkpoint where its index is issued. -/
theorem Walk.recompute_yields (h : Walk c.modulus entry capacity a ds b)
    (ha : c.tails.Answers entry capacity good) (hi : w.index ∈ IndexSet.upTo capacity)
    (hw : w.Valid c.modulus entry a.value) (hai : w.index ∈ a.issued) (hbi : w.index ∈ b.issued)
    (hb : b.Genuine c.modulus entry capacity) :
    ∃ omega, carried? c.modulus entry w.omega ds = some omega ∧
      Witness.Valid c.modulus entry ⟨w.index, omega⟩ b.value ∧
      (c.recompute w (some a.value) ds).Yields good (⟨w.index, omega⟩, b.value) := by
  obtain ⟨hlinked, hfinish⟩ := h.linked
  have hresidue : c.modulus.IsResidue b.value := hb.value ▸ Modulus.isResidue_accumulated _ _ _
  have hown := h.checkOwn_eq hai c.registry
  rw [if_pos hbi] at hown
  rw [← hfinish] at hresidue ⊢
  exact recompute_yields_of_balanced hw hlinked h.balanced hresidue hown (ha _ hi)
    fun d hd i hi => ha i (h.inRange d hd i hi)

/-- A witness does not get over a walk to a checkpoint where its index is no longer issued. -/
theorem Walk.recompute_revoked (h : Walk m entry capacity a ds b) (hai : w.index ∈ a.issued)
    (hbi : ¬ w.index ∈ b.issued) (s : σ) :
    c.recompute w (some a.value) ds s = .error (.revoked w.index c.registry) s := by
  have hown := h.checkOwn_eq hai c.registry
  rw [if_neg hbi] at hown
  exact recompute_eq_error h.linked.1 hown s

end Checkpoint

namespace Chronicle

variable {σ τ : Type} {m : Modulus} {entry : Int → Int} {capacity : Nat} {tails : TailsSource σ}
  {h : Chronicle σ} {c : Recomputer τ} {good : τ → Prop} {a b : Checkpoint} {i : Int} {k n : Nat}

/-- A witness that is made at one checkpoint and carried over all that is published from there to
another one is the witness that is made at the other. -/
theorem recompute_eq_create (hrun : IsRun tails m capacity h)
    (hc : tails.Consistent entry capacity) (hm : c.modulus = m)
    (ha : c.tails.Answers entry capacity good) (hkn : k ≤ n) (hk : h.checkpoints[k]? = some a)
    (hn : h.checkpoints[n]? = some b) (hi : i ∈ a.issued)
    (hrevoked : ∀ d, d ∈ h.part k n → ¬ i ∈ d.revoked) :
    ∃ w w', (Witness.create m c.tails i a.issued.toList a.value capacity).Yields good w ∧
      (c.recompute w (some a.value) (h.part k n)).Yields good (w', b.value) ∧
      (Witness.create m c.tails i b.issued.toList b.value capacity).Yields good w' := by
  subst hm
  have hs := sound_of_isRun hrun hc
  have hwalk := hs.walk hkn hk hn
  have hgenuine := hs.genuine a (List.mem_of_getElem? hk)
  have hgenuine' := hs.genuine b (List.mem_of_getElem? hn)
  have hb := hwalk.keeps hi hrevoked
  have hfirst := Witness.create_yields (m := c.modulus) ha hi hgenuine.inRange
  have hlast := Witness.create_yields (m := c.modulus) ha hb hgenuine'.inRange
  have hvalid : Witness.Valid c.modulus entry ⟨i, c.modulus.accumulated entry (a.issued.erase i)⟩
      a.value := (Modulus.combine_accumulated_erase hi).trans hgenuine.value.symm
  obtain ⟨omega, hcarried, -, hrecompute⟩ :=
    hwalk.recompute_yields ha (hgenuine.inRange i hi) hvalid hi hb hgenuine'
  cases (hwalk.carried_erase hi hb).symm.trans hcarried
  rw [← hgenuine.value] at hfirst
  rw [← hgenuine'.value] at hlast
  exact ⟨_, _, hfirst, hrecompute, hlast⟩

/-- Two updates behind modulo 15, with an entry that has no inverse. -/
theorem recompute_eq_create_fifteen :
    let m : Modulus := ⟨15, by decide⟩
    let tails : TailsSource Unit := .ofList [2, 4, 5, 7]
    let c : Recomputer Unit := ⟨m, tails, some "registry"⟩
    let a : Checkpoint := ⟨10, .ofList [1, 2, 3], ∅⟩
    let b : Checkpoint := ⟨5, .ofList [3, 4], .ofList [1, 2]⟩
    ∃ h, IsRun tails m 4 h ∧ h.checkpoints[1]? = some a ∧ h.checkpoints[3]? = some b ∧
      (∀ d, d ∈ h.part 1 3 → ¬ 3 ∈ d.revoked) ∧ ∃ w w',
        (Witness.create m tails 3 a.issued.toList a.value 4).Yields (fun _ => True) w ∧
        (c.recompute w (some a.value) (h.part 1 3)).Yields (fun _ => True) (w', b.value) ∧
        (Witness.create m tails 3 b.issued.toList b.value 4).Yields (fun _ => True) w' := by
  intro m tails c a b
  have hs : Registry.start m tails "registry" 4 .onDemand none () = .ok _ () := rfl
  let calls : List Registry.Call := [.issue (.ofList [1, 2, 3]), .revoke (.ofList [3, 5]),
    .revoke (.ofList [1]), .update (.ofList [4]) (.ofList [2])]
  have hrun : IsRun tails m 4 (recordAll tails calls (opening _ ())) :=
    ⟨"registry", .onDemand, none, (), _, (), calls, hs, rfl⟩
  have ha := TailsSource.ofList_answers [2, 4, 5, 7] fun _ : Unit => True
  refine ⟨_, hrun, ?hk, ?hn, ?hrevoked,
    recompute_eq_create (c := c) hrun ha.consistent rfl ha (by decide) ?hk ?hn (by decide)
      ?hrevoked⟩
  all_goals decide +kernel

end Chronicle
end Revocation
