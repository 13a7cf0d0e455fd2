import Revocation.Proofs.Composition
import Revocation.Proofs.EventLog

/-!
Catching up in groups. A part of a registry's history that composes to one delta may be replaced by
this delta: it leads from the same checkpoint to the same one, and carries witnesses to the same
element. Main statements: `Walk.exists_compose_iff`, by which a part composes unless it revokes what
it has issued, `Walk.advances_of_compose`, and `Walk.recomputeAll_settles`, by which updates group
by group come to what one update comes to.
-/
namespace Revocation

namespace Delta

variable {V : Type}

/-- Neither of two deltas issues the index while the other one revokes it. -/
def Apart (i : Int) (d e : Delta V) : Prop :=
  (i ∈ d.issued → ¬ i ∈ e.revoked) ∧ (i ∈ e.issued → ¬ i ∈ d.revoked)

instance (i : Int) : Std.Symm (@Apart V i) := ⟨fun _ _ h => ⟨h.2, h.1⟩⟩

variable [DecidableEq V] {ds : List (Delta V)}

/-- The ways to take in a group of deltas: one by one, or as the one delta composed of them. -/
inductive Covers (ds : List (Delta V)) : List (Delta V) → Prop
  | whole : Covers ds ds
  | composed {d : Delta V} (hd : compose ds = .ok d) : Covers ds [d]

theorem exists_compose (hne : ds ≠ []) (hgap : gap? 0 ds = none)
    (hapart : ∀ i, i ∈ issuedBy ds → ¬ i ∈ revokedBy ds) : ∃ d, compose ds = .ok d := by
  cases ds with
  | nil => exact (hne rfl).elim
  | cons first rest =>
    rw [compose, ofSets_eq_ok hapart]
    simp only [checkChain, hgap, Option.any_none]
    exact ⟨_, rfl⟩

variable {m : Modulus} {entry : Int → Int} {d : Delta Int}

/-- It makes no difference to the values of a delta what goes first, in or out. -/
theorem balanced_iff_absorbed? :
    d.Balanced m entry ↔ Recomputer.absorbed? m entry d.source d = some d.target := by
  have hfold : (d.issued.toList.map Factor.into ++ d.revoked.toList.map Factor.out).foldlM
      (Factor.applied? m entry) d.source = d.factors.foldlM (Factor.applied? m entry) d.source :=
    Factor.foldlM_factor_perm List.perm_append_comm d.source
  rw [List.foldlM_append, Recomputer.foldlM_into, ← Recomputer.absorbed?_eq_factors] at hfold
  rw [Balanced, ← hfold, ← Recomputer.foldlM_out]
  rfl

end Delta

namespace Checkpoint

open Delta Recomputer

variable {m : Modulus} {entry : Int → Int} {capacity : Nat} {a b : Checkpoint} {d : Delta Int}
  {ds es : List (Delta Int)} {groups : List (List (Delta Int))} {i omega : Int}

theorem Walk.split (h : Walk m entry capacity a (ds ++ es) b) :
    ∃ c, Walk m entry capacity a ds c ∧ Walk m entry capacity c es b := by
  induction ds generalizing a with
  | nil => exact ⟨a, .rest a, h⟩
  | cons d ds ih =>
    cases h with
    | step first next =>
      obtain ⟨c, hds, hes⟩ := ih next
      exact ⟨c, .step first hds, hes⟩

theorem Walk.mem_revoked (h : Walk m entry capacity a ds b) :
    i ∈ b.revoked ↔ i ∈ a.revoked ∨ i ∈ revokedBy ds := by
  induction h with
  | rest c => simp [revokedBy]
  | step first next ih => rw [ih, first.revoked, IndexSet.mem_union, mem_revokedBy_cons, or_assoc]

/-- What is issued in the end: all that was or has been issued, less all that has been revoked. -/
theorem Walk.mem_issued (h : Walk m entry capacity a ds b) :
    i ∈ b.issued ↔ (i ∈ a.issued ∨ i ∈ issuedBy ds) ∧ ¬ i ∈ revokedBy ds := by
  induction h with
  | rest c => simp [issuedBy, revokedBy]
  | @step a c b d ds first next ih =>
    -- What the first delta revokes is not issued by a later one.
    have hlater : i ∈ issuedBy ds → ¬ i ∈ d.revoked := by
      intro hi hd
      obtain ⟨e, he, hi⟩ := mem_issuedBy.mp hi
      exact next.not_mem_issued (.inr (first.revokes hd).1) e he hi
    rw [ih, first.issued, IndexSet.mem_diff, IndexSet.mem_union, mem_issuedBy_cons,
      mem_revokedBy_cons]
    grind

theorem Walk.revoked_of_gone (h : Walk m entry capacity a ds b) (hi : i ∈ a.issued)
    (hb : ¬ i ∈ b.issued) : i ∈ b.revoked := by
  refine h.mem_revoked.mpr (.inr ?_)
  by_contra hnot
  exact hb (h.mem_issued.mpr ⟨.inl hi, hnot⟩)

theorem Walk.held (h : Walk m entry capacity a ds b) (hi : i ∈ revokedBy ds) :
    i ∈ a.issued ∨ i ∈ issuedBy ds := by
  induction h with
  | rest c => simp [revokedBy] at hi
  | step first next ih =>
    rw [mem_issuedBy_cons]
    rcases mem_revokedBy_cons.mp hi with hd | hlater
    · exact .inl (first.held i hd)
    · rcases ih hlater with hc | hds
      · rw [first.issued, IndexSet.mem_diff, IndexSet.mem_union] at hc
        exact hc.1.imp_right .inl
      · exact .inr (.inr hds)

/-- A part of a history can be composed unless it issues an index and revokes it later. -/
theorem Walk.exists_compose_iff (h : Walk m entry capacity a ds b) (hne : ds ≠ []) :
    (∃ d, compose ds = .ok d) ↔ ds.Pairwise fun d e => ∀ i, i ∈ d.issued → ¬ i ∈ e.revoked := by
  constructor
  · rintro ⟨d, hd⟩
    obtain ⟨hcomposes, -⟩ := compose_eq_ok hd
    refine List.pairwise_of_forall_mem_list fun d₁ h₁ d₂ h₂ i hi hr => ?_
    have hissued : i ∈ d.issued := hcomposes.issued ▸ mem_issuedBy.mpr ⟨d₁, h₁, hi⟩
    have hrevoked : i ∈ d.revoked := hcomposes.revoked ▸ mem_revokedBy.mpr ⟨d₂, h₂, hr⟩
    exact d.disjoint i hissued hrevoked
  · intro hds
    have hgap : gap? 0 ds = none := by
      cases h with
      | rest => exact (hne rfl).elim
      | step first next => exact gap?_cons_eq_none.mpr (Walk.step first next).linked.1.2
    refine exists_compose hne hgap fun i hi hr => ?_
    obtain ⟨d₁, h₁, hi⟩ := mem_issuedBy.mp hi
    obtain ⟨d₂, h₂, hr⟩ := mem_revokedBy.mp hr
    -- In one order this is excluded here, in the other one by the life of an index.
    have hpairs : ds.Pairwise (Apart i) :=
      (hds.and h.final).imp fun hde => ⟨hde.1 i, fun hi hr => hde.2 i hr hi⟩
    have hall := hpairs.forall_of_forall fun d _ => ⟨d.disjoint i, d.disjoint i⟩
    exact (hall h₁ h₂).1 hi hr

/-- The values of a history are carried along it like the element of a witness. -/
theorem Walk.carried_value (h : Walk m entry capacity a ds b) :
    carried? m entry a.value ds = some b.value := by
  induction h with
  | rest c => rfl
  | step first next ih =>
    have habsorbed := balanced_iff_absorbed?.mp first.balanced
    rw [first.source, first.target] at habsorbed
    rw [carried?_cons, habsorbed]
    exact ih

theorem Walk.carried_compose (h : Walk m entry capacity a ds b) (hd : compose ds = .ok d)
    (omega : Int) : carried? m entry omega [d] = carried? m entry omega ds := by
  obtain ⟨hcomposes, -⟩ := compose_eq_ok hd
  rw [carried?_eq_factors, carried?_eq_factors, List.flatMap_singleton]
  exact (Factor.foldlM_factor_perm (hcomposes.perm_factors h.unrepeated) omega).symm

/-- The delta that a part of a history composes to leads from its first checkpoint to its last. -/
theorem Walk.advances_of_compose (h : Walk m entry capacity a ds b) (hd : compose ds = .ok d) :
    a.Advances m entry capacity d b := by
  obtain ⟨hcomposes, -⟩ := compose_eq_ok hd
  obtain ⟨first, rest, hds, hsource, htarget⟩ := hcomposes.ends
  obtain ⟨hlinked, hfinish⟩ := h.linked
  have hissued (i : Int) : i ∈ d.issued ↔ i ∈ issuedBy ds := by rw [hcomposes.issued]
  have hrevoked (i : Int) : i ∈ d.revoked ↔ i ∈ revokedBy ds := by rw [hcomposes.revoked]
  have hfrom : d.source = a.value := by
    rw [hds] at hlinked
    exact hsource.trans hlinked.1
  have hto : d.target = b.value := by
    rw [htarget, last_target first rest a.value, ← hds, hfinish]
  have hbalanced : d.Balanced m entry := by
    have hcarried := h.carried_compose hd a.value
    rw [h.carried_value, carried?_cons] at hcarried
    rw [balanced_iff_absorbed?, hfrom, hto, ← hcarried]
    cases absorbed? m entry a.value d <;> rfl
  rw [Delta.Balanced, hfrom, hto] at hbalanced
  refine ⟨hfrom, hto, hbalanced, ?_, ?_, ?_, ?_, ?_, ?_⟩
  · refine IndexSet.ext_mem fun i => ?_
    rw [h.mem_issued, IndexSet.mem_diff, IndexSet.mem_union, hissued, hrevoked]
  · refine IndexSet.ext_mem fun i => ?_
    rw [h.mem_revoked, IndexSet.mem_union, hrevoked]
  · intro i hi
    rw [hissued, hrevoked, mem_issuedBy, mem_revokedBy] at hi
    rcases hi with ⟨e, he, hi⟩ | ⟨e, he, hi⟩
    · exact h.inRange e he i (.inl hi)
    · exact h.inRange e he i (.inr hi)
  · intro i hi ha
    obtain ⟨e, he, hi⟩ := mem_issuedBy.mp ((hissued i).mp hi)
    exact h.not_mem_issued (.inl ha) e he hi
  · intro i hi ha
    obtain ⟨e, he, hi⟩ := mem_issuedBy.mp ((hissued i).mp hi)
    exact h.not_mem_issued (.inr ha) e he hi
  · intro i hi
    rcases h.held ((hrevoked i).mp hi) with ha | hds
    · exact ha
    · exact (d.disjoint i ((hissued i).mpr hds) hi).elim

theorem Walk.cover (h : Walk m entry capacity a ds b) (hcovers : Covers ds es) :
    Walk m entry capacity a es b ∧
      ∀ omega, carried? m entry omega es = carried? m entry omega ds := by
  cases hcovers with
  | whole => exact ⟨h, fun _ => rfl⟩
  | composed hd => exact ⟨.step (h.advances_of_compose hd) (.rest b), h.carried_compose hd⟩

theorem Walk.compose_groups {composed : List (Delta Int)}
    (h : Walk m entry capacity a groups.flatten b)
    (hall : List.Forall₂ (fun ds d => compose ds = .ok d) groups composed) :
    Walk m entry capacity a composed b ∧
      ∀ omega, carried? m entry omega composed = carried? m entry omega groups.flatten := by
  induction hall generalizing a with
  | nil => exact ⟨h, fun _ => rfl⟩
  | @cons ds d groups composed hd _ ih =>
    rw [List.flatten_cons] at h
    obtain ⟨c, hgroup, hrest⟩ := h.split
    obtain ⟨hwalk, hcarried⟩ := ih hrest
    refine ⟨.step (hgroup.advances_of_compose hd) hwalk, fun omega => ?_⟩
    have hone := hgroup.carried_compose hd omega
    rw [List.flatten_cons, carried?_append, ← hone, ← List.singleton_append, carried?_append]
    congr 1
    funext v
    exact hcarried v

/-- What an update comes to that ends at the checkpoint, given the witness that it would answer. -/
def arrival (registry : Option String) (w : Witness) (b : Checkpoint) :
    Except Failure (Witness × Int) :=
  if w.index ∈ b.issued then .ok (w, b.value) else .error (.revoked w.index registry)

variable {w : Witness}

theorem Walk.exists_carried_valid (h : Walk m entry capacity a ds b)
    (hw : w.Valid m entry a.value) : ∃ omega, carried? m entry w.omega ds = some omega ∧
      Witness.Valid m entry ⟨w.index, omega⟩ b.value := by
  obtain ⟨hlinked, hfinish⟩ := h.linked
  have hstart : m.IsResidue a.value := hw ▸ m.isResidue_combine _ _
  have hresidue := isResidue_finish hlinked h.balanced hstart
  rw [← hfinish]
  exact Recomputer.exists_carried_valid hw hlinked h.balanced hresidue

variable {σ : Type} {c : Recomputer σ} {good : σ → Prop}

/-- Over a walk an update settles: what is carried along is answered, unless the index is gone. -/
theorem Walk.recompute_settles (h : Walk c.modulus entry capacity a ds b)
    (ha : c.tails.Answers entry capacity good) (hrange : w.index ∈ IndexSet.upTo capacity)
    (hi : w.index ∈ a.issued) (hcarried : carried? c.modulus entry w.omega ds = some omega)
    (hvalid : Witness.Valid c.modulus entry ⟨w.index, omega⟩ b.value) :
    (c.recompute w (some a.value) ds).Settles good (arrival c.registry ⟨w.index, omega⟩ b) := by
  obtain ⟨hlinked, hfinish⟩ := h.linked
  have hown := h.checkOwn_eq hi c.registry
  have hsettles := Recomputer.recompute_settles (some a.value) (ha w.index hrange)
    fun d hd i hi => ha i (h.inRange d hd i hi)
  rw [arrival]
  split
  · next hb =>
    rw [if_pos hb] at hown
    rw [← hfinish] at hvalid ⊢
    rwa [recomputed_eq_ok hlinked hown hcarried hvalid] at hsettles
  · next hb =>
    intro s hs
    have hrevoked := h.recompute_revoked (c := c) hi hb s
    rw [Session.outcome_of_error hrevoked, Session.after_of_error hrevoked]
    exact ⟨rfl, hs⟩

end Checkpoint

/-- One update after the other, each from what the one before it has come to. -/
def Recomputer.recomputeAll {σ : Type} (c : Recomputer σ) (w : Witness) (value : Int) :
    List (List (Delta Int)) → Session σ (Witness × Int)
  | [] => pure (w, value)
  | ds :: chains => do
    let (w', reached) ← c.recompute w (some value) ds
    recomputeAll c w' reached chains

namespace Checkpoint

open Delta Recomputer

variable {entry : Int → Int} {capacity : Nat} {a b : Checkpoint} {σ : Type} {c : Recomputer σ}
  {good : σ → Prop} {groups chains : List (List (Delta Int))} {w : Witness} {omega : Int}

/-- Updates group by group, over the deltas of a group or over the one composed of them, come to
what one update over all groups comes to. -/
theorem Walk.recomputeAll_settles (h : Walk c.modulus entry capacity a groups.flatten b)
    (hcovers : List.Forall₂ Covers groups chains) (ha : c.tails.Answers entry capacity good)
    (hrange : w.index ∈ IndexSet.upTo capacity) (hi : w.index ∈ a.issued)
    (hw : w.Valid c.modulus entry a.value)
    (hcarried : carried? c.modulus entry w.omega groups.flatten = some omega) :
    (c.recomputeAll w a.value chains).Settles good (arrival c.registry ⟨w.index, omega⟩ b) := by
  induction hcovers generalizing a w with
  | nil =>
    cases h
    cases hcarried
    rw [arrival, if_pos hi]
    exact Session.settles_ofExcept (.ok _)
  | @cons ds es groups chains hcover _ ih =>
    rw [List.flatten_cons] at h hcarried
    obtain ⟨z, hgroup, hrest⟩ := h.split
    obtain ⟨hwalk, hsame⟩ := hgroup.cover hcover
    obtain ⟨v, hv, hvalid⟩ := hwalk.exists_carried_valid hw
    have hfirst := hwalk.recompute_settles ha hrange hi hv hvalid
    rw [carried?_append, ← hsame, hv, Option.bind_some] at hcarried
    rw [recomputeAll]
    by_cases hz : w.index ∈ z.issued
    · rw [arrival, if_pos hz] at hfirst
      refine (Session.settles_ok_iff.mp hfirst).bind_settles ?_
      exact ih (w := ⟨w.index, v⟩) hrest hrange hz hvalid hcarried
    · -- The index is revoked in this group, so it is not issued at the end either.
      have hb := hrest.spent (hgroup.revoked_of_gone hi hz) hz
      rw [arrival, if_neg hz] at hfirst
      rw [arrival, if_neg hb]
      exact hfirst.bind_error _

end Checkpoint

namespace Chronicle

open Checkpoint Delta

variable {σ τ : Type} {m : Modulus} {entry : Int → Int} {capacity : Nat} {tails : TailsSource σ}
  {h : Chronicle σ} {c : Recomputer τ} {good : τ → Prop} {a b : Checkpoint} {w : Witness}
  {k n : Nat}

/-- From one checkpoint to another, however the deltas between them are cut into groups that
compose: one update over all deltas, one over the composed ones, and one update for each group come
to the same. And a group composes unless an index is issued in it and revoked later in it. -/
theorem recompute_groups (hrun : IsRun tails m capacity h) (hc : tails.Consistent entry capacity)
    (hm : c.modulus = m) (ha : c.tails.Answers entry capacity good) (hkn : k ≤ n)
    (hk : h.checkpoints[k]? = some a) (hn : h.checkpoints[n]? = some b)
    (hi : w.index ∈ a.issued) (hw : w.Valid m entry a.value) :
    (∃ w' : Witness, w'.index = w.index ∧ w'.Valid m entry b.value ∧
      (c.recompute w (some a.value) (h.part k n)).Settles good (arrival c.registry w' b) ∧
      ∀ groups composed, groups.flatten = h.part k n →
        List.Forall₂ (fun ds d => compose ds = .ok d) groups composed →
          (c.recompute w (some a.value) composed).Settles good (arrival c.registry w' b) ∧
          ∀ chains, List.Forall₂ Covers groups chains →
            (c.recomputeAll w a.value chains).Settles good (arrival c.registry w' b)) ∧
    ∀ before group later, h.part k n = before ++ group ++ later → group ≠ [] →
      ((∃ d, compose group = .ok d) ↔
        group.Pairwise fun d e => ∀ i, i ∈ d.issued → ¬ i ∈ e.revoked) := by
  subst hm
  have hs := sound_of_isRun hrun hc
  have hwalk := hs.walk hkn hk hn
  have hrange := (hs.genuine a (List.mem_of_getElem? hk)).inRange w.index hi
  constructor
  · obtain ⟨omega, hcarried, hvalid⟩ := hwalk.exists_carried_valid hw
    refine ⟨⟨w.index, omega⟩, rfl, hvalid,
      hwalk.recompute_settles ha hrange hi hcarried hvalid, ?_⟩
    intro groups composed hgroups hcompose
    rw [← hgroups] at hwalk hcarried
    obtain ⟨hcomposed, hsame⟩ := hwalk.compose_groups hcompose
    refine ⟨hcomposed.recompute_settles ha hrange hi ?_ hvalid, fun chains hchains => ?_⟩
    · rw [hsame, hcarried]
    · exact hwalk.recomputeAll_settles hchains ha hrange hi hw hcarried
  · intro before group later hpart hne
    rw [hpart] at hwalk
    obtain ⟨_, hfront, -⟩ := hwalk.split
    obtain ⟨_, -, hgroup⟩ := hfront.split
    exact hgroup.exists_compose_iff hne

/-- Modulo 15, for an index whose entry has no inverse: the first two deltas compose, and the last
two do not, since index 4 comes and goes. -/
theorem recompute_groups_fifteen :
    let m : Modulus := ⟨15, by decide⟩
    let tails : TailsSource Unit := .ofList [2, 4, 5, 7]
    let entry := TailsSource.entryIn [2, 4, 5, 7]
    let c : Recomputer Unit := ⟨m, tails, some "registry"⟩
    let a : Checkpoint := ⟨10, .ofList [1, 2, 3], ∅⟩
    let b : Checkpoint := ⟨5, .ofList [3], .ofList [1, 2, 4]⟩
    let first : Delta Int := ⟨10, 5, ∅, .ofList [1], by simp⟩
    let second : Delta Int := ⟨5, 5, .ofList [4], .ofList [2], by decide⟩
    let third : Delta Int := ⟨5, 5, ∅, .ofList [4], by simp⟩
    let both : Delta Int := ⟨10, 5, .ofList [4], .ofList [1, 2], by decide⟩
    ∃ h, IsRun tails m 4 h ∧ h.checkpoints[1]? = some a ∧ h.checkpoints[4]? = some b ∧
      h.part 1 4 = [first] ++ [second, third] ++ [] ∧ compose [first, second] = .ok both ∧
      ∃ w' : Witness, w'.index = 3 ∧ w'.Valid m entry 5 ∧
        (c.recompute ⟨3, 8⟩ (some 10) (h.part 1 4)).Settles (fun _ => True)
          (arrival c.registry w' b) ∧
        (c.recompute ⟨3, 8⟩ (some 10) [both, third]).Settles (fun _ => True)
          (arrival c.registry w' b) ∧
        (c.recomputeAll ⟨3, 8⟩ 10 [[both], [third]]).Settles (fun _ => True)
          (arrival c.registry w' b) ∧
        ¬ ∃ d, compose [second, third] = .ok d := by
  intro m tails entry c a b first second third both
  have hs : Registry.start m tails "registry" 4 .onDemand none () = .ok _ () := rfl
  let calls : List Registry.Call := [.issue (.ofList [1, 2, 3]), .revoke (.ofList [1]),
    .update (.ofList [4]) (.ofList [2]), .revoke (.ofList [4])]
  have hrun : IsRun tails m 4 (recordAll tails calls (opening _ ())) :=
    ⟨"registry", .onDemand, none, (), _, (), calls, hs, rfl⟩
  have ha := TailsSource.ofList_answers [2, 4, 5, 7] fun _ : Unit => True
  have hboth : compose [first, second] = .ok both := by decide +kernel
  have hthird : compose [third] = .ok third := by decide +kernel
  refine ⟨_, hrun, ?hk, ?hn, ?hpart, hboth, ?same⟩
  case same =>
    obtain ⟨⟨w', hi, hvalid, hwhole, hgroups⟩, hcompose⟩ := recompute_groups (c := c) (w := ⟨3, 8⟩)
      (k := 1) (n := 4) hrun ha.consistent rfl ha (by decide) ?hk ?hn (by decide) (by decide)
    obtain ⟨hcomposed, hchains⟩ := hgroups [[first, second], [third]] [both, third]
      (by decide +kernel) (.cons hboth (.cons hthird .nil))
    refine ⟨w', hi, hvalid, hwhole, hcomposed,
      hchains _ (.cons (.composed hboth) (.cons .whole .nil)), ?_⟩
    rw [hcompose [first] [second, third] [] ?hpart (by simp)]
    decide
  all_goals decide +kernel

end Chronicle
end Revocation
