import Mathlib.Data.List.Nodup
import Revocation.Proofs.Recompute

/-!
A chain of deltas and the one delta composed of it. What an update does to a witness is a list of
factors, whose order makes no difference; a chain and its composition have the same factors, unless
the chain has one of them twice. Main statements: `foldlM_factor_perm`, `perm_factors` and
`recomputed_compose`.
-/
namespace Revocation

/-- One factor of an update: the entry of an index goes out or in. -/
inductive Factor
  | out (index : Int)
  | into (index : Int)

namespace Factor

variable (m : Modulus) (entry : Int → Int)

def element? : Factor → Option Int
  | .out i => m.invert? (entry i)
  | .into i => some (entry i)

def applied? (omega : Int) (f : Factor) : Option Int := (f.element? m entry).map (m.combine omega)

variable {m entry}

theorem applied?_comm (omega : Int) (f g : Factor) :
    ((f.applied? m entry omega).bind fun v => g.applied? m entry v) =
      (g.applied? m entry omega).bind fun v => f.applied? m entry v := by
  simp only [applied?]
  cases f.element? m entry with
  | none => cases g.element? m entry <;> rfl
  | some a =>
    cases g.element? m entry with
    | none => rfl
    | some b =>
      simp only [Option.map_some, Option.bind_some]
      rw [Modulus.combine_assoc, m.combine_comm a, ← Modulus.combine_assoc]

/-- Factors may be applied in any order. -/
theorem foldlM_factor_perm {fs gs : List Factor} (h : fs.Perm gs) (omega : Int) :
    fs.foldlM (applied? m entry) omega = gs.foldlM (applied? m entry) omega := by
  induction h generalizing omega with
  | nil => rfl
  | cons f _ ih =>
    simp only [List.foldlM_cons]
    congr 1
    funext v
    exact ih v
  | swap f g fs =>
    -- Only here are the factors themselves looked at.
    simp only [List.foldlM_cons, ← bind_assoc]
    congr 1
    exact applied?_comm omega g f
  | trans _ _ ih₁ ih₂ => exact (ih₁ omega).trans (ih₂ omega)

end Factor

namespace Delta

variable {V : Type} {d : Delta V} {ds : List (Delta V)} {i : Int}

def factors (d : Delta V) : List Factor := d.revoked.toList.map .out ++ d.issued.toList.map .into

theorem nodup_factors (d : Delta V) : d.factors.Nodup := by
  refine List.nodup_append.mpr ⟨?_, ?_, ?_⟩
  · exact d.revoked.nodup.map fun _ _ h => Factor.out.inj h
  · exact d.issued.nodup.map fun _ _ h => Factor.into.inj h
  · intro f hf g hg heq
    obtain ⟨i, -, rfl⟩ := List.mem_map.mp hf
    obtain ⟨j, -, rfl⟩ := List.mem_map.mp hg
    cases heq

theorem out_mem_factors : Factor.out i ∈ d.factors ↔ i ∈ d.revoked := by
  simp [factors, IndexSet.mem_def]

theorem into_mem_factors : Factor.into i ∈ d.factors ↔ i ∈ d.issued := by
  simp [factors, IndexSet.mem_def]

theorem mem_foldl_union {sets : Delta V → IndexSet} {s : IndexSet} :
    i ∈ ds.foldl (fun s d => s.union (sets d)) s ↔ i ∈ s ∨ ∃ d, d ∈ ds ∧ i ∈ sets d := by
  induction ds generalizing s with
  | nil => simp
  | cons d ds ih =>
    rw [List.foldl_cons, ih, IndexSet.mem_union, or_assoc]
    simp only [List.mem_cons, or_and_right, exists_or, exists_eq_left]

theorem mem_issuedBy : i ∈ issuedBy ds ↔ ∃ d, d ∈ ds ∧ i ∈ d.issued := by
  rw [issuedBy, mem_foldl_union]
  simp

theorem mem_revokedBy : i ∈ revokedBy ds ↔ ∃ d, d ∈ ds ∧ i ∈ d.revoked := by
  rw [revokedBy, mem_foldl_union]
  simp

theorem mem_issuedBy_cons : i ∈ issuedBy (d :: ds) ↔ i ∈ d.issued ∨ i ∈ issuedBy ds := by
  simp only [mem_issuedBy, List.mem_cons, or_and_right, exists_or, exists_eq_left]

theorem mem_revokedBy_cons : i ∈ revokedBy (d :: ds) ↔ i ∈ d.revoked ∨ i ∈ revokedBy ds := by
  simp only [mem_revokedBy, List.mem_cons, or_and_right, exists_or, exists_eq_left]

theorem Unrepeated.nodup_factors (h : Unrepeated ds) : (ds.flatMap factors).Nodup := by
  refine List.nodup_flatMap.mpr ⟨fun d _ => d.nodup_factors, ?_⟩
  refine (h.issued.and h.revoked).imp fun hde f hf hg => ?_
  cases f with
  | out i => exact hde.2 i (out_mem_factors.mp hf) (out_mem_factors.mp hg)
  | into i => exact hde.1 i (into_mem_factors.mp hf) (into_mem_factors.mp hg)

/-- That a delta is what a chain comes to. -/
structure Composes (ds : List (Delta V)) (d : Delta V) : Prop where
  ends : ∃ first rest, ds = first :: rest ∧ d.source = first.source ∧
    d.target = (last first rest).target
  issued : d.issued = issuedBy ds
  revoked : d.revoked = revokedBy ds

theorem Composes.perm_factors (h : Composes ds d) (hds : Unrepeated ds) :
    (ds.flatMap factors).Perm d.factors := by
  refine (List.perm_ext_iff_of_nodup hds.nodup_factors d.nodup_factors).mpr fun f => ?_
  rw [List.mem_flatMap]
  cases f with
  | out i => simp only [out_mem_factors, h.revoked, mem_revokedBy]
  | into i => simp only [into_mem_factors, h.issued, mem_issuedBy]

variable [DecidableEq V]

theorem compose_eq_ok (h : compose ds = .ok d) : Composes ds d ∧ gap? 0 ds = none := by
  cases ds with
  | nil => cases h
  | cons first rest =>
    simp only [compose, checkChain, Option.any_none, Bool.false_eq_true, if_false] at h
    cases hgap : gap? 0 (first :: rest) with
    | some p =>
      rw [hgap] at h
      cases h
    | none =>
      rw [hgap] at h
      by_cases hsets : ((issuedBy (first :: rest)).inter (revokedBy (first :: rest))).isEmpty
      · simp only [bind, Except.bind, ofSets, dif_pos hsets] at h
        cases h
        exact ⟨⟨⟨first, rest, rfl, rfl, rfl⟩, rfl, rfl⟩, rfl⟩
      · simp only [bind, Except.bind, ofSets, dif_neg hsets] at h
        cases h

theorem Composes.checkChain_eq (h : Composes ds d) (hgap : gap? 0 ds = none) (start : Option V) :
    checkChain ds start none = checkChain [d] start none := by
  obtain ⟨first, rest, rfl, hsource, -⟩ := h.ends
  simp only [checkChain, hgap, hsource, gap?, Option.any_none]

end Delta

namespace Recomputer

open Delta

variable {m : Modulus} {entry : Int → Int} {d : Delta Int} {ds : List (Delta Int)} {omega : Int}

theorem foldlM_out (omega : Int) (is : List Int) :
    (is.map Factor.out).foldlM (Factor.applied? m entry) omega =
      m.divide? omega (is.map entry) := by
  rw [Modulus.divide?, List.foldlM_map, List.foldlM_map]
  rfl

theorem foldlM_into (omega : Int) (is : List Int) :
    (is.map Factor.into).foldlM (Factor.applied? m entry) omega =
      some (m.multiply omega (is.map entry)) := by
  induction is generalizing omega with
  | nil => rfl
  | cons i is ih => exact ih (m.combine omega (entry i))

theorem absorbed?_eq_factors (omega : Int) (d : Delta Int) :
    absorbed? m entry omega d = d.factors.foldlM (Factor.applied? m entry) omega := by
  rw [factors, List.foldlM_append, foldlM_out, absorbed?, Option.map_eq_bind]
  congr 1
  funext v
  exact (foldlM_into v _).symm

theorem carried?_eq_factors (omega : Int) (ds : List (Delta Int)) :
    carried? m entry omega ds = (ds.flatMap factors).foldlM (Factor.applied? m entry) omega := by
  induction ds generalizing omega with
  | nil => rfl
  | cons d ds ih =>
    rw [carried?_cons, List.flatMap_cons, List.foldlM_append, absorbed?_eq_factors]
    congr 1
    funext v
    exact ih v

/-- Which of the deltas mentions an index first does not matter if none takes back what another one
does. -/
theorem checkOwn_eq {registry : Option String} {own : Int}
    (h : own ∈ issuedBy ds → ¬ own ∈ revokedBy ds) : checkOwn registry own ds =
      if own ∈ revokedBy ds then .error (.revoked own registry)
      else if own ∈ issuedBy ds then .error (.inconsistent (.issuesOwn own)) else .ok () := by
  induction ds with
  | nil => rfl
  | cons d ds ih =>
    simp only [mem_issuedBy_cons, mem_revokedBy_cons] at h ⊢
    have ih := ih fun hi hr => h (.inr hi) (.inr hr)
    rw [checkOwn]
    by_cases hr : own ∈ d.revoked
    · simp [hr]
    · by_cases hi : own ∈ d.issued
      · have hlater : ¬ own ∈ revokedBy ds := fun hr => h (.inl hi) (.inr hr)
        simp [hr, hi, hlater]
      · simpa [hr, hi] using ih

/-- A chain without repetitions comes to what its composition comes to. -/
theorem recomputed_compose (hd : compose ds = .ok d) (hds : Unrepeated ds)
    (registry : Option String) (w : Witness) (accumulator : Option Int) :
    recomputed m entry registry w accumulator ds =
      recomputed m entry registry w accumulator [d] := by
  obtain ⟨hcomposes, hgap⟩ := compose_eq_ok hd
  have hown : checkOwn registry w.index ds = checkOwn registry w.index [d] := by
    have hapart : w.index ∈ issuedBy ds → ¬ w.index ∈ revokedBy ds := by
      rw [← hcomposes.issued, ← hcomposes.revoked]
      exact d.disjoint w.index
    rw [checkOwn_eq hapart, ← hcomposes.issued, ← hcomposes.revoked]
    rfl
  have hcarried : carried? m entry w.omega ds = carried? m entry w.omega [d] := by
    rw [carried?_eq_factors, carried?_eq_factors, List.flatMap_singleton]
    exact Factor.foldlM_factor_perm (hcomposes.perm_factors hds) w.omega
  have htarget : target accumulator ds = target accumulator [d] := by
    obtain ⟨first, rest, rfl, -, hlast⟩ := hcomposes.ends
    rw [target, target, List.getLast?_eq_some_getLast (List.cons_ne_nil first rest)]
    exact congrArg some hlast.symm
  rw [recomputed, recomputed, hcomposes.checkChain_eq hgap, hown, hcarried, htarget]

variable {σ : Type} {c : Recomputer σ} {good : σ → Prop}

/-- Updating over a chain and over its composition come to the same witness and value, or to the
same failure, if no index is issued twice or revoked twice in the chain. -/
theorem recompute_compose (ha : ∀ i, (c.tails i).Yields good (entry i)) (hd : compose ds = .ok d)
    (hds : Unrepeated ds) (w : Witness) (accumulator : Option Int) {s t : σ} (hs : good s)
    (ht : good t) :
    (c.recompute w accumulator ds).outcome s = (c.recompute w accumulator [d]).outcome t := by
  have hsettles (es : List (Delta Int)) : (c.recompute w accumulator es).Settles good
      (recomputed c.modulus entry c.registry w accumulator es) :=
    recompute_settles accumulator (ha w.index) fun _ _ i _ => ha i
  rw [(hsettles ds s hs).1, (hsettles [d] t ht).1, recomputed_compose hd hds]

/-- Modulo 15, for an index whose entry has no inverse. -/
theorem recompute_compose_fifteen :
    let entry := TailsSource.entryIn [2, 4, 5, 7]
    let c : Recomputer Unit := ⟨⟨15, by decide⟩, fun i => return entry i, some "registry"⟩
    let ds : List (Delta Int) := [⟨10, 5, ∅, .ofList [1], by simp⟩,
      ⟨5, 5, .ofList [4], .ofList [2], by decide⟩]
    let d : Delta Int := ⟨10, 5, .ofList [4], .ofList [1, 2], by decide⟩
    (∀ i, (c.tails i).Yields (fun _ => True) (entry i)) ∧ compose ds = .ok d ∧ Unrepeated ds ∧
      (c.recompute ⟨3, 8⟩ (some 10) ds).outcome () = .ok (⟨3, 7⟩, 5) ∧
      (c.recompute ⟨3, 8⟩ (some 10) [d]).outcome () = .ok (⟨3, 7⟩, 5) := by
  intro entry c ds d
  have ha : ∀ i, (c.tails i).Yields (fun _ => True) (entry i) :=
    fun i => Session.yields_pure (entry i)
  have hd : compose ds = .ok d := by decide +kernel
  have hds : Unrepeated ds := ⟨by simp [ds], by simp [ds]⟩
  have hchain : (c.recompute ⟨3, 8⟩ (some 10) ds).outcome () = .ok (⟨3, 7⟩, 5) := by decide +kernel
  refine ⟨ha, hd, hds, hchain, ?_⟩
  rw [← recompute_compose ha hd hds ⟨3, 8⟩ (some 10) (s := ()) trivial trivial]
  exact hchain

/-- A chain that issues an index twice puts its entry in twice, and its composition puts it in
once. -/
theorem recompute_compose_of_repeated :
    let entry : Int → Int := fun i => i + 1
    let c : Recomputer Unit := ⟨⟨11, by decide⟩, fun i => return entry i, some "registry"⟩
    let ds : List (Delta Int) := [⟨2, 6, .ofList [2], ∅, by simp⟩, ⟨6, 7, .ofList [2], ∅, by simp⟩]
    (∀ i, (c.tails i).Yields (fun _ => True) (entry i)) ∧ ∃ d, compose ds = .ok d ∧
      (c.recompute ⟨1, 1⟩ (some 2) ds).outcome () = .ok (⟨1, 9⟩, 7) ∧
      (c.recompute ⟨1, 1⟩ (some 2) [d]).outcome () = .error (.updatedWitnessInvalid 1) := by
  intro entry c ds
  refine ⟨fun i => Session.yields_pure (entry i), ⟨2, 7, .ofList [2], ∅, by simp⟩, ?_, ?_, ?_⟩
  · decide +kernel
  · decide +kernel
  · decide +kernel

end Recomputer
end Revocation
