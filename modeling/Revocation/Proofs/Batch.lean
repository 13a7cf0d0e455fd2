import Revocation.Proofs.Fetching

/-!
One batch of a registry, whole or not at all. A batch that the registry does not allow asks its
tails for nothing; any other one asks for the indices that go in and then for those that go out, and
changes the registry if all of them can be had. Main statements: `ends_of_fetched`, `ends_of_breaks`
and `update_allOrNothing`.
-/
namespace Revocation.Registry

open TailsSource

variable {σ : Type} {tails : TailsSource σ} {r r' : Registry} {issued revoked : IndexSet} {s t : σ}

/-- What a batch asks its tails for. -/
def requests (issued revoked : IndexSet) : List Factor :=
  issued.toList.map .into ++ revoked.toList.map .out

theorem map_index_requests (issued revoked : IndexSet) :
    (requests issued revoked).map Factor.index = issued.toList ++ revoked.toList := by
  rw [requests, List.map_append, Factor.map_index_into, Factor.map_index_out]

theorem Allows.requests_ne_nil (h : r.Allows issued revoked) : requests issued revoked ≠ [] := by
  intro hnil
  obtain ⟨hissued, hrevoked⟩ := List.append_eq_nil_iff.mp hnil
  refine h.something ⟨?_, ?_⟩
  · exact List.isEmpty_iff.mpr (List.map_eq_nil_iff.mp hissued)
  · exact List.isEmpty_iff.mpr (List.map_eq_nil_iff.mp hrevoked)

theorem Allows.nodup_requests (h : r.Allows issued revoked) :
    (issued.toList ++ revoked.toList).Nodup :=
  issued.nodup.append revoked.nodup fun i hi hr => h.disjoint i hi hr

theorem moved_eq_fetched (tails : TailsSource σ) (r : Registry) (issued revoked : IndexSet) :
    moved tails r issued revoked = do
      return r.modulus.multiply r.accumulator
        (← (requests issued revoked).mapM (Factor.fetched tails r.modulus)) := by
  rw [← Factor.foldlM_apply, requests, List.foldlM_append, moved]
  simp only [including_eq_factors, excluding_eq_factors]

/-- What a batch comes to, and the indices that its tails are asked for on the way. -/
structure Ends (tails : TailsSource σ) (issued revoked : IndexSet) (r : Registry) (s : σ)
    (x : Except Failure (Delta Int)) (asked : List Int) (r' : Registry) (t : σ) : Prop where
  result : update tails issued revoked (r, s) = Session.ofExcept x (r', t)
  asked : ∀ log, update tails.noted issued revoked (r, log, s) =
    Session.ofExcept x (r', log ++ asked, t)

theorem ends_of_not_allowed (tails : TailsSource σ) (h : ¬ r.Allows issued revoked) (s : σ) :
    ∃ e, Ends tails issued revoked r s (.error e) [] r s := by
  cases ha : r.allow issued revoked with
  | ok _ => exact (h (allow_eq_ok.mp ha)).elim
  | error e =>
    refine ⟨e, update_of_not_allowed tails ha s, fun log => ?_⟩
    rw [List.append_nil]
    exact update_of_not_allowed tails.noted ha (log, s)

theorem ends_of_breaks (ha : r.Allows issued revoked) {asked : List Factor} {e : Failure}
    (h : Breaks tails r.modulus s (requests issued revoked) asked e t) :
    Ends tails issued revoked r s (.error e) (asked.map Factor.index) r t := by
  constructor
  · refine update_of_moved_error ha ?_
    rw [moved_eq_fetched]
    exact Session.bind_of_error h.run _
  · intro log
    refine update_of_moved_error ha ?_
    rw [moved_eq_fetched]
    exact Session.bind_of_error (h.noted log).run _

theorem ends_of_fetched (ha : r.Allows issued revoked) {cs : List Int}
    (h : (requests issued revoked).mapM (Factor.fetched tails r.modulus) s = .ok cs t) :
    let d : Delta Int :=
      ⟨r.accumulator, r.modulus.multiply r.accumulator cs, issued, revoked, ha.disjoint⟩
    ∃ r', r.publish d = .ok r' ∧
      Ends tails issued revoked r s (.ok d) (issued.toList ++ revoked.toList) r' t := by
  intro d
  have hmoved : moved tails r issued revoked s = .ok d.target t := by
    rw [moved_eq_fetched]
    exact Session.bind_of_ok h _
  obtain ⟨r', hpublish, hupdate⟩ := update_of_moved ha hmoved
  refine ⟨r', hpublish, hupdate, fun log => ?_⟩
  have hnoted : moved tails.noted r issued revoked (log, s) =
      .ok d.target (log ++ (issued.toList ++ revoked.toList), t) := by
    rw [moved_eq_fetched, ← map_index_requests]
    exact Session.bind_of_ok (mapM_fetched_noted h log) _
  obtain ⟨r'', hpublish', hupdate'⟩ := update_of_moved ha hnoted
  cases hpublish.symm.trans hpublish'
  exact hupdate'

/-- What a published batch changes, given the entries that go in and the inverses of those that go
out. -/
structure Moves (r : Registry) (ins inverses : List Int) (d : Delta Int) (r' : Registry) :
    Prop where
  source : d.source = r.accumulator
  target : d.target = r.accumulator * ins.prod * inverses.prod % r.modulus.value
  head : r'.accumulator = d.target
  history : r.ledger.append d = .ok r'.ledger
  issued : r'.issued = (r.issued.union d.issued).diff d.revoked
  revoked : r'.revoked = r.revoked.union d.revoked
  assigned : r'.assigned = r.assigned.union d.issued
  terms : SameTerms r r'

theorem moves_of_publish {ins inverses : List Int} {d : Delta Int}
    (hsource : d.source = r.accumulator)
    (htarget : d.target = r.accumulator * ins.prod * inverses.prod % r.modulus.value)
    (h : r.publish d = .ok r') : Moves r ins inverses d r' := by
  have hterms := sameTerms_of_publish h
  obtain ⟨l, hl, rfl⟩ := publish_eq_ok.mp h
  exact ⟨hsource, htarget, Ledger.head_of_append hl, hl, rfl, rfl, rfl, hterms⟩

theorem update_eq_ok_iff : (∃ d x, update tails issued revoked (r, s) = .ok d x) ↔
    r.Allows issued revoked ∧ tails.Supplies r.modulus s (requests issued revoked) := by
  rw [supplies_iff]
  constructor
  · rintro ⟨d, x, hupdate⟩
    by_cases ha : r.Allows issued revoked
    · refine ⟨ha, ?_⟩
      rcases fetched_or_breaks tails r.modulus s (requests issued revoked) with
        h | ⟨asked, e, t, hbreaks⟩
      · exact h
      · cases hupdate.symm.trans (ends_of_breaks ha hbreaks).result
    · obtain ⟨e, hends⟩ := ends_of_not_allowed tails ha s
      cases hupdate.symm.trans hends.result
  · rintro ⟨ha, cs, t, hcs⟩
    obtain ⟨r', -, hends⟩ := ends_of_fetched ha hcs
    exact ⟨_, _, hends.result⟩

/-- The effect of a batch whose entries can all be had. -/
theorem ends_of_gathers (ha : r.Allows issued revoked) {ins outs : List Int}
    (h : Gathers tails s (requests issued revoked) ins outs t)
    (hcoprime : ∀ b, b ∈ outs → IsCoprime b r.modulus.value) :
    ∃ inverses d r', outs.mapM r.modulus.invert? = some inverses ∧
      d.issued = issued ∧ d.revoked = revoked ∧ Moves r ins inverses d r' ∧
      Ends tails issued revoked r s (.ok d) (issued.toList ++ revoked.toList) r' t := by
  obtain ⟨inverses, hinverses⟩ := Modulus.exists_inverses_iff.mpr hcoprime
  obtain ⟨cs, hcs, hprod⟩ := h.exists_fetched hinverses
  obtain ⟨r', hpublish, hends⟩ := ends_of_fetched ha hcs
  have hne : cs ≠ [] := by
    rintro rfl
    exact ha.requests_ne_nil (List.length_eq_zero_iff.mp (Session.length_of_mapM hcs).symm)
  refine ⟨inverses, _, r', hinverses, rfl, rfl, moves_of_publish rfl ?_ hpublish, hends⟩
  rw [Modulus.multiply_eq_emod _ hne, hprod, mul_assoc]

/-- When a batch is taken, what it changes then, and that it changes nothing otherwise. -/
structure AllOrNothing (tails : TailsSource σ) (issued revoked : IndexSet) (r : Registry) (s : σ) :
    Prop where
  succeeds : (∃ d x, update tails issued revoked (r, s) = .ok d x) ↔
    r.Allows issued revoked ∧ tails.Supplies r.modulus s (requests issued revoked)
  taken : r.Allows issued revoked → ∀ ins outs t,
    Gathers tails s (requests issued revoked) ins outs t →
    (∀ b, b ∈ outs → IsCoprime b r.modulus.value) →
      ∃ inverses d r', outs.mapM r.modulus.invert? = some inverses ∧
        d.issued = issued ∧ d.revoked = revoked ∧ Moves r ins inverses d r' ∧
        Ends tails issued revoked r s (.ok d) (issued.toList ++ revoked.toList) r' t
  refused : ¬ r.Allows issued revoked → ∃ e, Ends tails issued revoked r s (.error e) [] r s
  broken : r.Allows issued revoked → ¬ tails.Supplies r.modulus s (requests issued revoked) →
    ∃ asked e t, Breaks tails r.modulus s (requests issued revoked) asked e t ∧
      Ends tails issued revoked r s (.error e) (asked.map Factor.index) r t
  once : r.Allows issued revoked → (issued.toList ++ revoked.toList).Nodup
  unchanged : ∀ e x, update tails issued revoked (r, s) = .error e x → x.1 = r

/-- A batch is taken if and only if the registry allows it and all of its entries can be had, as far
as they go out with an inverse. -/
theorem update_allOrNothing (tails : TailsSource σ) (issued revoked : IndexSet) (r : Registry)
    (s : σ) : AllOrNothing tails issued revoked r s := by
  constructor
  case succeeds => exact update_eq_ok_iff
  case taken => exact fun ha _ _ _ => ends_of_gathers ha
  case refused => exact fun hnot => ends_of_not_allowed tails hnot s
  case broken =>
    intro ha hnot
    rcases fetched_or_breaks tails r.modulus s (requests issued revoked) with
      h | ⟨asked, e, t, hbreaks⟩
    · exact (hnot (supplies_iff.mpr h)).elim
    · exact ⟨asked, e, t, hbreaks, ends_of_breaks ha hbreaks⟩
  case once => exact Allows.nodup_requests
  case unchanged =>
    intro e x hupdate
    rcases update_or_error tails r issued revoked s with ⟨e', t, h⟩ | ⟨d, r', t, h, -⟩
    · cases hupdate.symm.trans h
      rfl
    · cases hupdate.symm.trans h

end Revocation.Registry
