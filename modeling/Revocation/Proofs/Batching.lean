import Revocation.Proofs.Batch
import Revocation.Proofs.EventLog

/-!
One batch and the same changes in parts. What a registry comes to is given by the factors that go
into its accumulator and out of it, in whatever order they do; so a batch that is taken may as well
be published index by index, or cut into smaller batches of any kind, and only the history tells the
difference. Main statements: `Reaches.append`, `runAll_reaches` and `parts_of_update`.
-/
namespace Revocation.Registry

open Factor

variable {σ : Type} {tails : TailsSource σ} {entry : Int → Int} {good : σ → Prop}
  {r r' r'' : Registry} {issued revoked : IndexSet} {fs gs : List Factor} {s t : σ} {i v : Int}

theorem into_mem_requests : Factor.into i ∈ requests issued revoked ↔ i ∈ issued := by
  simp [requests, IndexSet.mem_def]

theorem out_mem_requests : Factor.out i ∈ requests issued revoked ↔ i ∈ revoked := by
  simp [requests, IndexSet.mem_def]

/-- What a registry asks of changes that are made one after the other, in any order. -/
structure Permits (r : Registry) (fs : List Factor) : Prop where
  nodup : (fs.map index).Nodup
  inRange : ∀ f, f ∈ fs → f.index ∈ IndexSet.upTo r.capacity
  fresh : ∀ i, .into i ∈ fs → ¬ i ∈ r.issued
  unspent : ∀ i, .into i ∈ fs → ¬ i ∈ r.revoked
  held : ∀ i, .out i ∈ fs → i ∈ r.issued

theorem Allows.permits (h : r.Allows issued revoked) : r.Permits (requests issued revoked) := by
  have hindex : ∀ f, f ∈ requests issued revoked → f.index ∈ issued ∨ f.index ∈ revoked := by
    intro f hf
    cases f with
    | into i => exact .inl (into_mem_requests.mp hf)
    | out i => exact .inr (out_mem_requests.mp hf)
  constructor
  · rw [map_index_requests]
    exact h.nodup_requests
  · exact fun f hf => h.inRange f.index (hindex f hf)
  · exact fun i hi => h.fresh i (into_mem_requests.mp hi)
  · exact fun i hi => h.unspent i (into_mem_requests.mp hi)
  · exact fun i hi => h.held i (out_mem_requests.mp hi)

theorem Permits.allows (h : r.Permits (requests issued revoked))
    (hne : requests issued revoked ≠ []) : r.Allows issued revoked := by
  constructor
  · rintro ⟨hissued, hrevoked⟩
    refine hne (List.eq_nil_iff_forall_not_mem.mpr fun f hf => ?_)
    cases f with
    | into i => exact IndexSet.isEmpty_iff.mp hissued i (into_mem_requests.mp hf)
    | out i => exact IndexSet.isEmpty_iff.mp hrevoked i (out_mem_requests.mp hf)
  · rintro i (hi | hi)
    · exact h.inRange (.into i) (into_mem_requests.mpr hi)
    · exact h.inRange (.out i) (out_mem_requests.mpr hi)
  · exact fun i hi => h.fresh i (into_mem_requests.mpr hi)
  · exact fun i hi => h.unspent i (into_mem_requests.mpr hi)
  · exact fun i hi => h.held i (out_mem_requests.mpr hi)

theorem Permits.perm (h : r.Permits fs) (hperm : fs.Perm gs) : r.Permits gs := by
  constructor
  · exact (hperm.map index).nodup_iff.mp h.nodup
  · exact fun f hf => h.inRange f (hperm.mem_iff.mpr hf)
  · exact fun i hi => h.fresh i (hperm.mem_iff.mpr hi)
  · exact fun i hi => h.unspent i (hperm.mem_iff.mpr hi)
  · exact fun i hi => h.held i (hperm.mem_iff.mpr hi)

theorem Permits.sublist (h : r.Permits fs) (hsub : gs.Sublist fs) : r.Permits gs := by
  constructor
  · exact h.nodup.sublist (hsub.map index)
  · exact fun f hf => h.inRange f (hsub.subset hf)
  · exact fun i hi => h.fresh i (hsub.subset hi)
  · exact fun i hi => h.unspent i (hsub.subset hi)
  · exact fun i hi => h.held i (hsub.subset hi)

/-- No index is changed twice. -/
theorem Permits.apart {f g : Factor} (h : r.Permits (fs ++ gs)) (hf : f ∈ fs) (hg : g ∈ gs) :
    f.index ≠ g.index := by
  have hnodup := h.nodup
  rw [List.map_append] at hnodup
  exact (List.nodup_append.mp hnodup).2.2 _ (List.mem_map_of_mem hf) _ (List.mem_map_of_mem hg)

/-- What has become of a registry once all of these factors have been applied. -/
structure Reaches (entry : Int → Int) (r : Registry) (fs : List Factor) (r' : Registry) : Prop where
  accumulator : fs.foldlM (applied? r.modulus entry) r.accumulator = some r'.accumulator
  issued : ∀ i, i ∈ r'.issued ↔ (i ∈ r.issued ∨ .into i ∈ fs) ∧ ¬ .out i ∈ fs
  revoked : ∀ i, i ∈ r'.revoked ↔ i ∈ r.revoked ∨ .out i ∈ fs
  assigned : ∀ i, i ∈ r'.assigned ↔ i ∈ r.assigned ∨ .into i ∈ fs
  terms : SameTerms r r'

theorem Reaches.refl (entry : Int → Int) (r : Registry) : Reaches entry r [] r :=
  ⟨rfl, by simp, by simp, by simp, .refl r⟩

/-- The order in which the factors are applied makes no difference. -/
theorem Reaches.perm (h : Reaches entry r fs r') (hperm : fs.Perm gs) : Reaches entry r gs r' := by
  constructor
  · rw [← foldlM_factor_perm hperm, h.accumulator]
  · intro i
    rw [h.issued, hperm.mem_iff, hperm.mem_iff]
  · intro i
    rw [h.revoked, hperm.mem_iff]
  · intro i
    rw [h.assigned, hperm.mem_iff]
  · exact h.terms

/-- What the first factors leave permits the others. -/
theorem Permits.right (h : r.Permits (fs ++ gs)) (hreaches : Reaches entry r fs r') :
    r'.Permits gs := by
  have hgs := h.sublist (List.sublist_append_right fs gs)
  constructor
  · exact hgs.nodup
  · rw [hreaches.terms.capacity]
    exact hgs.inRange
  · intro i hi hissued
    rcases ((hreaches.issued i).mp hissued).1 with hold | hnew
    · exact hgs.fresh i hi hold
    · exact h.apart hnew hi rfl
  · intro i hi hrevoked
    rcases (hreaches.revoked i).mp hrevoked with hold | hnew
    · exact hgs.unspent i hi hold
    · exact h.apart hnew hi rfl
  · intro i hi
    exact (hreaches.issued i).mpr ⟨.inl (hgs.held i hi), fun hout => h.apart hout hi rfl⟩

theorem Reaches.append (hpermits : r.Permits (fs ++ gs)) (h : Reaches entry r fs r')
    (h' : Reaches entry r' gs r'') : Reaches entry r (fs ++ gs) r'' := by
  have hbind := h'.accumulator
  rw [h.terms.modulus] at hbind
  constructor
  · rw [List.foldlM_append, h.accumulator]
    exact hbind
  · intro i
    have hapart : .into i ∈ gs → ¬ .out i ∈ fs := fun hi ho => hpermits.apart ho hi rfl
    rw [h'.issued, h.issued, List.mem_append, List.mem_append]
    tauto
  · intro i
    rw [h'.revoked, h.revoked, List.mem_append, or_assoc]
  · intro i
    rw [h'.assigned, h.assigned, List.mem_append, or_assoc]
  · exact h.terms.trans h'.terms

/-- All that there is to a registry but for its published history. -/
structure SameButHistory (r r' : Registry) : Prop where
  accumulator : r'.accumulator = r.accumulator
  issued : r'.issued = r.issued
  revoked : r'.revoked = r.revoked
  assigned : r'.assigned = r.assigned
  terms : SameTerms r r'

theorem Reaches.sameButHistory (h : Reaches entry r fs r') (h' : Reaches entry r fs r'') :
    SameButHistory r' r'' := by
  have haccumulator := h.accumulator.symm.trans h'.accumulator
  constructor
  · exact (Option.some.inj haccumulator).symm
  · exact IndexSet.ext_mem fun i => by rw [h.issued, h'.issued]
  · exact IndexSet.ext_mem fun i => by rw [h.revoked, h'.revoked]
  · exact IndexSet.ext_mem fun i => by rw [h.assigned, h'.assigned]
  · exact h.terms.symm.trans h'.terms

theorem reaches_of_publish {d : Delta Int}
    (hvalue : (requests d.issued d.revoked).foldlM (applied? r.modulus entry) r.accumulator =
      some d.target)
    (h : r.publish d = .ok r') : Reaches entry r (requests d.issued d.revoked) r' := by
  have hterms := sameTerms_of_publish h
  obtain ⟨l, hl, rfl⟩ := publish_eq_ok.mp h
  refine ⟨?_, ?_, ?_, ?_, hterms⟩
  · rw [hvalue, ← Ledger.head_of_append hl]
    rfl
  · intro i
    rw [IndexSet.mem_diff, IndexSet.mem_union, into_mem_requests, out_mem_requests]
  · intro i
    rw [IndexSet.mem_union, out_mem_requests]
  · intro i
    rw [IndexSet.mem_union, into_mem_requests]

theorem foldlM_requests (m : Modulus) (entry : Int → Int) (a : Int) (issued revoked : IndexSet) :
    (requests issued revoked).foldlM (applied? m entry) a =
      m.divide? (m.multiply a (issued.toList.map entry)) (revoked.toList.map entry) := by
  rw [requests, List.foldlM_append, Recomputer.foldlM_into]
  exact Recomputer.foldlM_out _ _

section

variable (ha : tails.Answers entry r.capacity good)
include ha

/-- The factors are applied one by one, up to the first one that has no inverse. -/
theorem moved_settles (hallows : r.Allows issued revoked) :
    (moved tails r issued revoked).Settles good (Modulus.orNotInvertible
      ((requests issued revoked).foldlM (applied? r.modulus entry) r.accumulator)) := by
  rw [foldlM_requests]
  refine Session.Yields.bind_settles ?_ (TailsSource.excluding_settles ?_)
  · exact TailsSource.including_yields fun i hi => ha i (hallows.inRange i (.inl hi))
  · exact fun i hi => ha i (hallows.inRange i (.inr hi))

variable (hs : good s)
include hs

theorem update_reaches (hallows : r.Allows issued revoked)
    (hvalue : (requests issued revoked).foldlM (applied? r.modulus entry) r.accumulator = some v) :
    ∃ d r' t, update tails issued revoked (r, s) = .ok d (r', t) ∧ good t ∧
      Reaches entry r (requests issued revoked) r' ∧
      r'.ledger.published = r.ledger.published + 1 := by
  have hsettles := moved_settles ha hallows
  rw [hvalue] at hsettles
  obtain ⟨t, hmoved, hgood⟩ := Session.settles_ok_iff.mp hsettles s hs
  obtain ⟨r', hpublish, hupdate⟩ := update_of_moved hallows hmoved
  obtain ⟨l, hl, rfl⟩ := publish_eq_ok.mp hpublish
  exact ⟨_, _, t, hupdate, hgood, reaches_of_publish hvalue hpublish, Ledger.published_of_append hl⟩

theorem reaches_of_update {d : Delta Int}
    (h : update tails issued revoked (r, s) = .ok d (r', t)) :
    r.Permits (requests issued revoked) ∧ Reaches entry r (requests issued revoked) r' := by
  rcases update_or_error tails r issued revoked s with ⟨e, u, he⟩ | ⟨d', r₁, u, hu, rfl, rfl, hp⟩
  · cases h.symm.trans he
  · cases h.symm.trans hu
    refine ⟨hp.allows.permits, reaches_of_publish ?_ hp.result⟩
    have houtcome := (moved_settles ha hp.allows s hs).1
    rw [Session.outcome_of_ok hp.moved] at houtcome
    cases hvalue : (requests d.issued d.revoked).foldlM (applied? r.modulus entry)
        r.accumulator with
    | none =>
      rw [hvalue] at houtcome
      cases houtcome
    | some v =>
      rw [hvalue] at houtcome
      cases houtcome
      rfl

end

/-- Any calls one after the other, as long as each of them succeeds. -/
def runAll (tails : TailsSource σ) : List Call → Session (Registry × σ) Unit
  | [] => return
  | c :: calls => do
    c.run tails
    runAll tails calls

theorem Call.Updates.run_eq {c : Call} (h : c.Updates issued revoked) :
    c.run tails = discard (Registry.update tails issued revoked) := by
  cases h <;> rfl

theorem runAll_reaches {calls : List Call} {batches : List (IndexSet × IndexSet)}
    (hcalls : List.Forall₂ (fun c b => c.Updates b.1 b.2) calls batches)
    (hne : ∀ b, b ∈ batches → requests b.1 b.2 ≠ [])
    (ha : tails.Answers entry r.capacity good) (hs : good s)
    (hpermits : r.Permits (batches.flatMap fun b => requests b.1 b.2))
    (hvalue : (batches.flatMap fun b => requests b.1 b.2).foldlM (applied? r.modulus entry)
      r.accumulator = some v) :
    ∃ r' t, runAll tails calls (r, s) = .ok () (r', t) ∧ good t ∧
      Reaches entry r (batches.flatMap fun b => requests b.1 b.2) r' ∧
      r'.ledger.published = r.ledger.published + calls.length := by
  induction hcalls generalizing r s with
  | nil => exact ⟨r, s, rfl, hs, .refl entry r, rfl⟩
  | @cons c b calls batches hc _ ih =>
    obtain ⟨hb, hbatches⟩ := List.forall_mem_cons.mp hne
    rw [List.flatMap_cons] at hpermits hvalue ⊢
    -- The value of the first batch, and the one that the others lead on to from there.
    rw [List.foldlM_append] at hvalue
    obtain ⟨w, hfirst, hrest⟩ := Option.bind_eq_some_iff.mp hvalue
    have hallows := (hpermits.sublist (List.sublist_append_left _ _)).allows hb
    obtain ⟨d, r₁, u, hupdate, hu, hreaches, hpublished⟩ := update_reaches ha hs hallows hfirst
    have hw := hfirst.symm.trans hreaches.accumulator
    cases hw
    have hpermits₁ := hpermits.right hreaches
    rw [← hreaches.terms.capacity] at ha
    rw [← hreaches.terms.modulus] at hrest
    obtain ⟨r', t, hrun, ht, hreaches', hpublished'⟩ := ih hbatches ha hu hpermits₁ hrest
    refine ⟨r', t, ?_, ht, hreaches.append hpermits hreaches', ?_⟩
    · have hcall : c.run tails (r, s) = .ok () (r₁, u) := by
        rw [hc.run_eq]
        exact Session.discard_of_ok hupdate
      rw [runAll, Session.bind_of_ok hcall]
      exact hrun
    · rw [hpublished', hpublished, List.length_cons]
      omega

/-- The batch that changes one index. -/
def single : Factor → IndexSet × IndexSet
  | .into i => (.ofList [i], ∅)
  | .out i => (∅, .ofList [i])

/-- The call that changes one index. -/
def Call.single : Factor → Call
  | .into i => .issue (.ofList [i])
  | .out i => .revoke (.ofList [i])

theorem requests_single (f : Factor) : requests (single f).1 (single f).2 = [f] := by
  cases f <;> rfl

theorem flatMap_requests_single (fs : List Factor) :
    ((fs.map single).flatMap fun b => requests b.1 b.2) = fs := by
  simp only [List.flatMap_map, requests_single, List.flatMap_singleton']

theorem updates_single (fs : List Factor) :
    List.Forall₂ (fun c b => c.Updates b.1 b.2) (fs.map Call.single) (fs.map single) := by
  induction fs with
  | nil => exact .nil
  | cons f fs ih =>
    refine .cons ?_ ih
    cases f with
    | into i => exact .issue _
    | out i => exact .revoke _

/-- A batch in parts: together they change what it changes, and each of them changes something. -/
structure Divides (batches : List (IndexSet × IndexSet)) (issued revoked : IndexSet) : Prop where
  something : ∀ b, b ∈ batches → requests b.1 b.2 ≠ []
  all : (batches.flatMap fun b => requests b.1 b.2).Perm (requests issued revoked)

theorem divides_single (h : fs.Perm (requests issued revoked)) :
    Divides (fs.map single) issued revoked := by
  constructor
  · intro b hb
    obtain ⟨f, -, rfl⟩ := List.mem_map.mp hb
    rw [requests_single]
    exact List.cons_ne_nil f []
  · rwa [flatMap_requests_single]

/-- All calls succeed, each with a delta of its own, and lead to the given registry but for its
history. -/
def LeadTo (tails : TailsSource σ) (good : σ → Prop) (calls : List Call) (r : Registry) (s : σ)
    (r' : Registry) : Prop :=
  ∃ r'' t, runAll tails calls (r, s) = .ok () (r'', t) ∧ good t ∧ SameButHistory r' r'' ∧
    r''.ledger.published = r.ledger.published + calls.length

theorem Reaches.leadTo (hreaches : Reaches entry r (requests issued revoked) r')
    (hpermits : r.Permits (requests issued revoked)) {calls : List Call}
    {batches : List (IndexSet × IndexSet)}
    (hcalls : List.Forall₂ (fun c b => c.Updates b.1 b.2) calls batches)
    (hdivides : Divides batches issued revoked) (ha : tails.Answers entry r.capacity good)
    (hs : good s) : LeadTo tails good calls r s r' := by
  have hparts := hreaches.perm hdivides.all.symm
  obtain ⟨r'', t, hrun, ht, hreaches', hpublished⟩ := runAll_reaches hcalls hdivides.something ha hs
    (hpermits.perm hdivides.all.symm) hparts.accumulator
  exact ⟨r'', t, hrun, ht, hparts.sameButHistory hreaches', hpublished⟩

/-- Where the tails answer, a batch that a registry takes, in whatever state it is, may as well be
published in parts, or index by index, in any order: nothing is refused on the way, and the same
registry comes of it but for the deltas. -/
theorem parts_of_update {d : Delta Int} (ha : tails.Answers entry r.capacity good) (hs : good s)
    (hu : update tails issued revoked (r, s) = .ok d (r', t)) :
    (∀ fs : List Factor, fs.Perm (requests issued revoked) → ∀ u, good u →
      LeadTo tails good (fs.map Call.single) r u r') ∧
    ∀ calls batches, List.Forall₂ (fun c b => c.Updates b.1 b.2) calls batches →
      Divides batches issued revoked → ∀ u, good u → LeadTo tails good calls r u r' := by
  obtain ⟨hpermits, hreaches⟩ := reaches_of_update ha hs hu
  constructor
  · intro fs hfs u hu
    exact hreaches.leadTo hpermits (updates_single fs) (divides_single hfs) ha hu
  · intro calls batches hcalls hdivides u hu
    exact hreaches.leadTo hpermits hcalls hdivides ha hu

/-- A batch modulo 15 of three indices, one after the other and in two parts; the entry 5 has no
inverse, and stays in. -/
theorem parts_of_update_fifteen :
    let tails : TailsSource Unit := .ofList [2, 4, 5, 7]
    ∃ r₀, start ⟨15, by decide⟩ tails "registry" 4 .onDemand none () = .ok r₀ () ∧
      let r := (performAll tails [.issue (.ofList [1, 2, 3])] (r₀, ())).1
      tails.Answers (TailsSource.entryIn [2, 4, 5, 7]) r.capacity (fun _ => True) ∧
      ∃ d r', update tails (.ofList [4]) (.ofList [1, 2]) (r, ()) = .ok d (r', ()) ∧
        d.target = 5 ∧
        LeadTo tails (fun _ => True) [.revoke (.ofList [2]), .issue (.ofList [4]),
          .revoke (.ofList [1])] r () r' ∧
        LeadTo tails (fun _ => True) [.update (.ofList [4]) (.ofList [1]), .revoke (.ofList [2])]
          r () r' := by
  intro tails
  have hs : start ⟨15, by decide⟩ tails "registry" 4 .onDemand none () = .ok _ () := rfl
  refine ⟨_, hs, ?_⟩
  intro r
  have ha : tails.Answers (TailsSource.entryIn [2, 4, 5, 7]) r.capacity fun _ => True :=
    TailsSource.ofList_answers [2, 4, 5, 7] _
  have houtcome : (update tails (.ofList [4]) (.ofList [1, 2])).outcome (r, ()) =
      .ok ⟨10, 5, .ofList [4], .ofList [1, 2], by decide⟩ := by
    decide +kernel
  obtain ⟨⟨r', ⟨⟩⟩, hu⟩ := Session.outcome_eq_ok.mp houtcome
  obtain ⟨hsingles, hparts⟩ := parts_of_update ha trivial hu
  have hperm : ([.out 2] ++ [.into 4, .out 1] : List Factor).Perm ([.into 4, .out 1] ++ [.out 2]) :=
    List.perm_append_comm
  have hcalls : List.Forall₂ (fun (c : Call) b => c.Updates b.1 b.2)
      [.update (.ofList [4]) (.ofList [1]), .revoke (.ofList [2])]
      [(.ofList [4], .ofList [1]), (∅, .ofList [2])] :=
    .cons (.update _ _) (.cons (.revoke _) .nil)
  have hdivides : Divides [(.ofList [4], .ofList [1]), (∅, .ofList [2])] (.ofList [4])
      (.ofList [1, 2]) := by
    refine ⟨fun b hb => ?_, .refl _⟩
    rcases List.mem_pair.mp hb with rfl | rfl
    · exact List.cons_ne_nil _ _
    · exact List.cons_ne_nil _ _
  exact ⟨ha, _, r', hu, rfl, hsingles _ hperm () trivial, hparts _ _ hcalls hdivides () trivial⟩

end Revocation.Registry
