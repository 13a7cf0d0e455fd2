import Revocation.Proofs.Grouping

/-!
Composing in groups. A chain composes if and only if its deltas link up and none of them takes back
what another one does, wherever they stand in it; so a chain may be composed in parts first, however
it is cut, with the same result. Main statements: `exists_compose_iff`, `compose_eq_ok_iff` and
`compose_flatten`.
-/
namespace Revocation.Delta

variable {V : Type} {start : V} {d e : Delta V} {ds composed : List (Delta V)}
  {groups : List (List (Delta V))} {i : Int}

/-- That a delta leads from the start of a chain to its end, and has all of its indices. -/
structure NetEffect (ds : List (Delta V)) (d : Delta V) : Prop where
  nonempty : ds ≠ []
  linked : Linked d.source ds
  finish : finish d.source ds = d.target
  issued : d.issued = issuedBy ds
  revoked : d.revoked = revokedBy ds

theorem linked_of_isChain (h : (d :: ds).IsChain fun d e => d.target = e.source) :
    Linked d.target ds := by
  induction ds generalizing d with
  | nil => trivial
  | cons e ds ih =>
    cases h with
    | cons_cons hlink hrest => exact ⟨hlink.symm, ih hrest⟩

theorem NetEffect.linked_iff (h : NetEffect ds d) : Linked start ds ↔ d.source = start := by
  obtain ⟨hne, hlinked, -⟩ := h
  cases ds with
  | nil => exact (hne rfl).elim
  | cons e ds =>
    simp only [Linked] at hlinked ⊢
    rw [hlinked.1]
    exact and_iff_left hlinked.2

theorem NetEffect.finish_eq (h : NetEffect ds d) (start : V) :
    Delta.finish start ds = d.target := by
  obtain ⟨hne, -, hfinish, -⟩ := h
  cases ds with
  | nil => exact (hne rfl).elim
  | cons e ds => exact hfinish

theorem NetEffect.unique (hd : NetEffect ds d) (he : NetEffect ds e) : d = e := by
  have hsource : d.source = e.source := hd.linked_iff.mp he.linked
  have htarget : d.target = e.target := (hd.finish_eq d.source).symm.trans (he.finish_eq d.source)
  have hissued : d.issued = e.issued := hd.issued.trans he.issued.symm
  have hrevoked : d.revoked = e.revoked := hd.revoked.trans he.revoked.symm
  cases d
  cases e
  congr

theorem mem_issuedBy_append {es : List (Delta V)} :
    i ∈ issuedBy (ds ++ es) ↔ i ∈ issuedBy ds ∨ i ∈ issuedBy es := by
  simp only [mem_issuedBy, List.mem_append, or_and_right, exists_or]

theorem mem_revokedBy_append {es : List (Delta V)} :
    i ∈ revokedBy (ds ++ es) ↔ i ∈ revokedBy ds ∨ i ∈ revokedBy es := by
  simp only [mem_revokedBy, List.mem_append, or_and_right, exists_or]

section

variable (h : List.Forall₂ NetEffect groups composed)
include h

theorem linked_flatten_iff : Linked start groups.flatten ↔ Linked start composed := by
  induction h generalizing start with
  | nil => rfl
  | cons hd _ ih => rw [List.flatten_cons, linked_append, hd.linked_iff, hd.finish_eq, ih, Linked]

theorem finish_flatten (start : V) : finish start groups.flatten = finish start composed := by
  induction h generalizing start with
  | nil => rfl
  | cons hd _ ih =>
    rw [List.flatten_cons, finish_append, hd.finish_eq, ih]
    rfl

theorem issuedBy_flatten : issuedBy groups.flatten = issuedBy composed := by
  refine IndexSet.ext_mem fun i => ?_
  induction h with
  | nil => rfl
  | cons hd _ ih =>
    rw [List.flatten_cons, mem_issuedBy_append, mem_issuedBy_cons, ih, hd.issued]

theorem revokedBy_flatten : revokedBy groups.flatten = revokedBy composed := by
  refine IndexSet.ext_mem fun i => ?_
  induction h with
  | nil => rfl
  | cons hd _ ih =>
    rw [List.flatten_cons, mem_revokedBy_append, mem_revokedBy_cons, ih, hd.revoked]

theorem flatten_eq_nil_iff : groups.flatten = [] ↔ composed = [] := by
  cases h with
  | nil => simp
  | cons hd _ => simp [hd.nonempty]

/-- The net effect of a chain is that of the net effects of its parts. -/
theorem netEffect_flatten_iff : NetEffect groups.flatten d ↔ NetEffect composed d := by
  have hnil := not_congr (flatten_eq_nil_iff h)
  have hlinked : Linked d.source groups.flatten ↔ Linked d.source composed := linked_flatten_iff h
  have hfinish := finish_flatten h d.source
  have hissued := issuedBy_flatten h
  have hrevoked := revokedBy_flatten h
  constructor
  · intro hd
    exact ⟨hnil.mp hd.nonempty, hlinked.mp hd.linked, hfinish ▸ hd.finish, hissued ▸ hd.issued,
      hrevoked ▸ hd.revoked⟩
  · intro hd
    exact ⟨hnil.mpr hd.nonempty, hlinked.mpr hd.linked, hfinish ▸ hd.finish, hissued ▸ hd.issued,
      hrevoked ▸ hd.revoked⟩

end

variable [DecidableEq V]

/-- A chain composes if its deltas link up and none takes back what another one does. -/
theorem exists_compose_iff (hne : ds ≠ []) : (∃ d, compose ds = .ok d) ↔
    (ds.IsChain fun d e => d.target = e.source) ∧ ds.Pairwise fun d e => ∀ i, Apart i d e := by
  cases ds with
  | nil => exact (hne rfl).elim
  | cons first rest =>
    constructor
    · rintro ⟨d, hd⟩
      obtain ⟨hcomposes, hgap⟩ := compose_eq_ok hd
      have hlinked : Linked first.source (first :: rest) := ⟨rfl, gap?_cons_eq_none.mp hgap⟩
      have hapart : ∀ a ∈ first :: rest, ∀ b ∈ first :: rest, ∀ i,
          i ∈ a.issued → ¬ i ∈ b.revoked := by
        intro a ha b hb i hi hr
        have hissued : i ∈ d.issued := hcomposes.issued ▸ mem_issuedBy.mpr ⟨a, ha, hi⟩
        have hrevoked : i ∈ d.revoked := hcomposes.revoked ▸ mem_revokedBy.mpr ⟨b, hb, hr⟩
        exact d.disjoint i hissued hrevoked
      refine ⟨hlinked.isChain, List.pairwise_of_forall_mem_list fun a ha b hb i => ?_⟩
      exact ⟨hapart a ha b hb i, hapart b hb a ha i⟩
    · rintro ⟨hchain, hpairs⟩
      refine exists_compose hne (gap?_cons_eq_none.mpr (linked_of_isChain hchain)) ?_
      intro i hi hr
      obtain ⟨a, ha, hi⟩ := mem_issuedBy.mp hi
      obtain ⟨b, hb, hr⟩ := mem_revokedBy.mp hr
      have hall := (hpairs.imp fun h => h i).forall_of_forall
        fun d _ => ⟨d.disjoint i, d.disjoint i⟩
      exact (hall ha hb).1 hi hr

theorem compose_eq_ok_iff : compose ds = .ok d ↔ NetEffect ds d := by
  have hnet : ∀ {e}, compose ds = .ok e → NetEffect ds e := by
    intro e h
    obtain ⟨⟨⟨first, rest, rfl, hsource, htarget⟩, hissued, hrevoked⟩, hgap⟩ := compose_eq_ok h
    refine ⟨List.cons_ne_nil first rest, ⟨hsource.symm, gap?_cons_eq_none.mp hgap⟩, ?_, hissued,
      hrevoked⟩
    rw [htarget, last_target]
  constructor
  · exact hnet
  · intro h
    have hgap : gap? 0 ds = none := by
      cases ds with
      | nil => rfl
      | cons first rest => exact gap?_cons_eq_none.mpr h.linked.2
    have hapart : ∀ i, i ∈ issuedBy ds → ¬ i ∈ revokedBy ds := by
      rw [← h.issued, ← h.revoked]
      exact d.disjoint
    obtain ⟨e, he⟩ := exists_compose h.nonempty hgap hapart
    rw [he, (hnet he).unique h]

theorem compose_or_error (hne : ds ≠ []) :
    (∃ d, compose ds = .ok d) ∨ ∃ cause, compose ds = .error (.inconsistent cause) := by
  cases ds with
  | nil => exact (hne rfl).elim
  | cons first rest =>
    cases hchain : checkChain (first :: rest) none none with
    | error e =>
      obtain ⟨cause, rfl⟩ := checkChain_eq_error hchain
      refine .inr ⟨cause, ?_⟩
      rw [compose, hchain]
      rfl
    | ok _ =>
      rw [compose, hchain]
      by_cases hsets : ((issuedBy (first :: rest)).inter (revokedBy (first :: rest))).isEmpty
      · exact .inl ⟨_, dif_pos hsets⟩
      · exact .inr ⟨_, dif_neg hsets⟩

/-- The deltas that the groups compose to, composed. -/
def composeGroups (groups : List (List (Delta V))) : Except Failure (Delta V) := do
  compose (← groups.mapM compose)

theorem mapM_compose_or_error (hne : ∀ g, g ∈ groups → g ≠ []) :
    (∃ composed, groups.mapM compose = .ok composed ∧ List.Forall₂ NetEffect groups composed) ∨
      ∃ cause, groups.mapM compose = .error (.inconsistent cause) ∧
        ∃ g, g ∈ groups ∧ ¬ ∃ d, compose g = .ok d := by
  induction groups with
  | nil => exact .inl ⟨[], rfl, .nil⟩
  | cons g groups ih =>
    obtain ⟨hg, hgroups⟩ := List.forall_mem_cons.mp hne
    rw [List.mapM_cons]
    rcases compose_or_error hg with ⟨d, hd⟩ | ⟨cause, hcause⟩
    · rw [hd]
      rcases ih hgroups with ⟨composed, hmap, hall⟩ | ⟨cause, hmap, h, hmem, hnot⟩
      · rw [hmap]
        exact .inl ⟨d :: composed, rfl, .cons (compose_eq_ok_iff.mp hd) hall⟩
      · rw [hmap]
        exact .inr ⟨cause, rfl, h, List.mem_cons_of_mem g hmem, hnot⟩
    · refine .inr ⟨cause, ?_, g, List.mem_cons_self, ?_⟩
      · rw [hcause]
        rfl
      · rw [hcause]
        simp

end Revocation.Delta
