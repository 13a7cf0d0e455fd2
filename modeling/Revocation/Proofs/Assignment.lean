import Revocation.Proofs.EventLog
import Revocation.Proofs.Route

/-!
Handing out indices. What is handed out has not been handed out or revoked before, and on demand it
has not been issued before, whatever the tails answer and whoever else issues and revokes. Main
statements: `handedOut_nodup`, `assigns`, which says what becomes of each request for an index, and
`handedOut_replicate`, by which the free indices are handed out one by one until none is left.
-/
namespace Revocation

namespace IndexSet

variable {s : IndexSet} {i : Int} {is : List Int}

theorem least_of_toList (h : s.toList = i :: is) : i ∈ s ∧ ∀ j, j ∈ s → i ≤ j := by
  have hs := s.ascending
  rw [h] at hs
  obtain ⟨hi, -⟩ := List.pairwise_cons.mp hs
  simp only [mem_def, h]
  refine ⟨List.mem_cons_self, fun j hj => ?_⟩
  rcases List.mem_cons.mp hj with rfl | hj
  · exact le_refl j
  · exact le_of_lt (hi j hj)

theorem not_mem_of_toList (h : s.toList = []) : ¬ i ∈ s := by
  rw [mem_def, h]
  exact List.not_mem_nil

theorem toList_erase_head (h : s.toList = i :: is) : (s.erase i).toList = is := by
  have hs := s.ascending
  rw [h] at hs
  obtain ⟨hi, -⟩ := List.pairwise_cons.mp hs
  rw [erase, filter]
  simp only [h, ne_eq, decide_not, List.filter_cons, decide_true, Bool.not_true, Bool.false_eq_true,
    if_false]
  refine List.filter_eq_self.mpr fun j hj => ?_
  have := hi j hj
  simp only [Bool.not_eq_true', decide_eq_false_iff_not]
  omega

end IndexSet

/-- From every good state the source answers for each index of a registry, and is good again. -/
def TailsSource.Available {σ : Type} (tails : TailsSource σ) (capacity : Nat) (good : σ → Prop) :
    Prop :=
  ∀ i, i ∈ IndexSet.upTo capacity → ∀ s, good s → ∃ a t, tails i s = .ok a t ∧ good t

/-- The source does not fail in a way in which a registry refuses what it is asked for. -/
def TailsSource.NeverRefuses {σ : Type} (tails : TailsSource σ) : Prop :=
  ∀ i s e t, tails i s = .error e t →
    (∀ id n, e ≠ .registryFull id n) ∧ ∀ cause, e ≠ .inconsistent cause

theorem TailsSource.watched_available (entries : List Int) :
    (watched entries).Available entries.length fun w => w.withheld = [] := by
  intro i hi w hw
  refine ⟨entryIn entries i, { w with asked := i :: w.asked }, ?_, hw⟩
  simp [watched, hw, ofList, entryAt_eq_ok hi]

theorem TailsSource.watched_neverRefuses (entries : List Int) :
    (watched entries).NeverRefuses := by
  intro i w e t h
  rw [watched] at h
  split at h
  · cases h
    exact ⟨by simp, by simp⟩
  · have herror := Session.eq_error_of_ofExcept h
    rw [entryAt] at herror
    split at herror
    · cases herror
      exact ⟨by simp, by simp⟩
    · split at herror <;> cases herror
      exact ⟨by simp, by simp⟩

namespace Registry

/-- The least index from `i` on that is not in the row: it is found, and all before it are there. -/
theorem leastFree_spec {js : List Int} (h : js.Pairwise (· < ·)) (i : Int) :
    i ≤ leastFree i js ∧ ¬ leastFree i js ∈ js ∧ ∀ k, i ≤ k → k < leastFree i js → k ∈ js := by
  induction js generalizing i with
  | nil => simp only [leastFree, List.not_mem_nil, not_false_eq_true, true_and, le_refl]; omega
  | cons j js ih =>
    obtain ⟨hj, hs⟩ := List.pairwise_cons.mp h
    rw [leastFree]
    split
    · next hlt =>
      refine ⟨le_refl i, fun hmem => ?_, by omega⟩
      rcases List.mem_cons.mp hmem with rfl | hmem
      · omega
      · have := hj i hmem
        omega
    · next hge =>
      obtain ⟨hle, hnot, hbefore⟩ := ih hs (if i = j then i + 1 else i)
      generalize leastFree (if i = j then i + 1 else i) js = l at hle hnot hbefore ⊢
      have hjl : j < l := by
        split at hle <;> omega
      refine ⟨by split at hle <;> omega, fun hmem => ?_, fun k hk hkl => ?_⟩
      · rcases List.mem_cons.mp hmem with rfl | hmem
        · omega
        · exact hnot hmem
      · by_cases hkj : k = j
        · exact List.mem_cons.mpr (.inl hkj)
        · refine List.mem_cons_of_mem j (hbefore k ?_ hkl)
          split <;> omega

variable {σ : Type} {r r' : Registry} {i : Int}

/-- The indices that can still be handed out. -/
def free (r : Registry) : IndexSet := (IndexSet.upTo r.capacity).filter (!r.isTaken ·)

theorem mem_free :
    i ∈ r.free ↔ i ∈ IndexSet.upTo r.capacity ∧ ¬ i ∈ r.assigned ∧ ¬ i ∈ r.revoked := by
  rw [free, IndexSet.mem_filter, Bool.not_eq_true', isTaken_eq_false]

theorem free?_eq_some :
    r.free? = some i ↔ i ∈ r.free ∧ ∀ j, j ∈ r.free → i ≤ j := by
  have hspec := leastFree_spec (r.assigned.union r.revoked).ascending 1
  simp only [← IndexSet.mem_def, IndexSet.mem_union, not_or] at hspec
  rw [free?]
  generalize leastFree 1 (r.assigned.union r.revoked).toList = l at hspec ⊢
  obtain ⟨hone, hl, hbefore⟩ := hspec
  have hleast : ∀ j, j ∈ r.free → l ≤ j := by
    intro j hj
    obtain ⟨hrange, hassigned, hrevoked⟩ := mem_free.mp hj
    by_contra hlt
    rcases hbefore j (IndexSet.mem_upTo.mp hrange).1 (by omega) with h | h
    · exact hassigned h
    · exact hrevoked h
  constructor
  · intro h
    split at h
    · next hcap =>
      cases h
      exact ⟨mem_free.mpr ⟨IndexSet.mem_upTo.mpr ⟨hone, hcap⟩, hl⟩, hleast⟩
    · cases h
  · rintro ⟨hi, hmin⟩
    have hle := hleast i hi
    obtain ⟨-, hcap⟩ := IndexSet.mem_upTo.mp (mem_free.mp hi).1
    have hfree : l ∈ r.free := mem_free.mpr ⟨IndexSet.mem_upTo.mpr ⟨hone, by omega⟩, hl⟩
    have := hmin l hfree
    rw [if_pos (by omega)]
    congr 1
    omega

theorem free?_of_cons {is : List Int} (h : r.free.toList = i :: is) : r.free? = some i :=
  free?_eq_some.mpr (IndexSet.least_of_toList h)

theorem free?_eq_none : r.free? = none ↔ ∀ i, ¬ i ∈ r.free := by
  cases hf : r.free.toList with
  | nil =>
    have hnone : ∀ i, ¬ i ∈ r.free := fun i => IndexSet.not_mem_of_toList hf
    refine ⟨fun _ => hnone, fun _ => Option.eq_none_iff_forall_ne_some.mpr fun i hi => ?_⟩
    exact hnone i (free?_eq_some.mp hi).1
  | cons i is =>
    rw [free?_of_cons hf]
    exact ⟨nofun, fun h => (h i (IndexSet.least_of_toList hf).1).elim⟩

/-- On demand an index gets into the accumulator by being handed out or marked as such. -/
def Marked (r : Registry) : Prop :=
  r.issuance = .onDemand → ∀ i, i ∈ r.issued → i ∈ r.assigned

variable {tails : TailsSource σ} {s t : σ} {index : Option Int}

theorem PublishesFrom.marked {d : Delta Int} (h : PublishesFrom tails r s d r' t)
    (hm : r.Marked) : r'.Marked := by
  obtain ⟨l, -, rfl⟩ := publish_eq_ok.mp h.result
  intro hk i hi
  rw [IndexSet.mem_diff, IndexSet.mem_union] at hi
  rw [IndexSet.mem_union]
  exact hi.1.imp_left (hm hk i)

theorem Change.marked (h : Change tails r s r') (hm : r.Marked) : r'.Marked := by
  cases h with
  | stay => exact hm
  | handOut i => exact fun hk j hj => IndexSet.mem_insert.mpr (.inr (hm hk j hj))
  | publish d _ t h => exact h.marked hm

theorem Change.assigned_mono (h : Change tails r s r') (hi : i ∈ r.assigned) : i ∈ r'.assigned := by
  cases h with
  | stay => exact hi
  | handOut j => exact IndexSet.mem_insert.mpr (.inr hi)
  | publish d _ t h =>
    rw [h.assigned, IndexSet.mem_union]
    exact .inl hi

theorem change_of_assign (h : assign tails index (r, s) = .ok i (r', t)) : Change tails r s r' := by
  have hchange := change_assign tails r index s
  rwa [Session.after_of_ok h] at hchange

/-- An index that is handed out was free, and nothing else changes for what is free. -/
theorem sets_of_assign (h : assign tails index (r, s) = .ok i (r', t)) :
    i ∈ r.free ∧ ∀ k, (k ∈ r'.assigned ↔ k = i ∨ k ∈ r.assigned) ∧
      (k ∈ r'.revoked ↔ k ∈ r.revoked) := by
  rcases assign_or_error tails r index s with
    ⟨e, u, ha⟩ | ⟨j, r'', u, ha, hj, hassigned, hrevoked, ⟨-, rfl⟩ | ⟨-, d, hd, hd', hp⟩⟩
  · rw [h] at ha
    cases ha
  · rw [h] at ha
    cases ha
    exact ⟨mem_free.mpr ⟨hj, hassigned, hrevoked⟩, fun k => ⟨IndexSet.mem_insert, Iff.rfl⟩⟩
  · rw [h, hp.handOut_eq hd] at ha
    cases ha
    obtain ⟨l, -, rfl⟩ := publish_eq_ok.mp hp.result
    refine ⟨mem_free.mpr ⟨hj, hassigned, hrevoked⟩, fun k => ⟨?_, ?_⟩⟩
    · simp [hd, or_comm]
    · simp [hd']

theorem free_of_assign (h : assign tails index (r, s) = .ok i (r', t)) :
    r'.free = r.free.erase i := by
  have hsame := (change_of_assign h).sameTerms
  obtain ⟨-, hsets⟩ := sets_of_assign h
  refine IndexSet.ext_mem fun k => ?_
  rw [IndexSet.mem_erase, mem_free, mem_free, hsame.capacity, (hsets k).1, (hsets k).2, not_or]
  tauto

theorem toList_free_of_assign {is : List Int} (h : assign tails index (r, s) = .ok i (r', t))
    (hf : r.free.toList = i :: is) : r'.free.toList = is := by
  rw [free_of_assign h, IndexSet.toList_erase_head hf]

theorem moved_singleton (tails : TailsSource σ) (r : Registry) (i : Int) (s : σ) :
    moved tails r (.ofList [i]) ∅ s = match tails i s with
      | .ok a t => .ok (r.modulus.combine r.accumulator a) t
      | .error e t => .error e t := by
  have hone : (IndexSet.ofList [i]).toList = [i] := rfl
  have hnone : (∅ : IndexSet).toList = [] := rfl
  rw [moved, hone, hnone, TailsSource.including_cons, bind_assoc, Session.bind_apply]
  cases tails i s <;> rfl

theorem allows_of_free (hf : i ∈ r.free) (hm : r.Marked) (hk : r.issuance = .onDemand) :
    r.Allows (.ofList [i]) ∅ := by
  obtain ⟨hi, hassigned, hrevoked⟩ := mem_free.mp hf
  have hissued := fun h => hassigned (hm hk i h)
  constructor
  · rintro ⟨h, -⟩
    exact IndexSet.isEmpty_iff.mp h i (by simp)
  all_goals simp_all

/-- What becomes of a free index: it is handed out, or its entry cannot be had, on demand. -/
theorem assign_of_free (tails : TailsSource σ) (hf : i ∈ r.free) (hm : r.Marked) (s : σ) :
    match r.issuance, tails i s with
    | .byDefault, _ => assign tails (some i) (r, s) = .ok i (r.handOut i, s)
    | .onDemand, .ok _ t => ∃ r', assign tails (some i) (r, s) = .ok i (r', t)
    | .onDemand, .error e t => assign tails (some i) (r, s) = .error e (r, t) := by
  obtain ⟨hi, htaken⟩ := mem_free.mp hf
  have htaken := isTaken_eq_false.mpr htaken
  cases hk : r.issuance with
  | byDefault => exact assign_of_byDefault tails s hi htaken hk
  | onDemand =>
    have hallows := allows_of_free hf hm hk
    have hmoved := moved_singleton tails r i s
    rw [assign_of_onDemand tails s hi htaken hk]
    cases hfetch : tails i s with
    | error e t =>
      rw [hfetch] at hmoved
      rw [update_of_moved_error hallows hmoved]
    | ok a t =>
      rw [hfetch] at hmoved
      obtain ⟨r', -, hu⟩ := update_of_moved hallows hmoved
      rw [hu]
      exact ⟨_, rfl⟩

/-- The index that a call hands out, if it does. -/
def Call.handsOut? (tails : TailsSource σ) (c : Call) (x : Registry × σ) : Option Int :=
  match c with
  | .assign index => ((Registry.assign tails index).outcome x).toOption
  | .issueCredential index => ((Registry.assign tails index).outcome x).toOption
  | _ => none

/-- The indices that calls hand out, the first one first. -/
def handedOut (tails : TailsSource σ) : List Call → Registry × σ → List Int
  | [], _ => []
  | c :: calls, x => (c.handsOut? tails x).toList ++ handedOut tails calls (c.perform tails x)

theorem toOption_outcome_eq_some {ρ α : Type} {x : Session ρ α} {s : ρ} {a : α} :
    (x.outcome s).toOption = some a ↔ ∃ t, x s = .ok a t := by
  rw [← Session.outcome_eq_ok]
  cases x.outcome s <;> simp [Except.toOption]

theorem Call.handsOut?_eq_some {c : Call} {x : Registry × σ} :
    c.handsOut? tails x = some i ↔
      ∃ index y, c.Assigns index ∧ Registry.assign tails index x = .ok i y := by
  constructor
  · intro h
    cases c with
    | assign index =>
      obtain ⟨y, hy⟩ := toOption_outcome_eq_some.mp h
      exact ⟨index, y, .assign index, hy⟩
    | issueCredential index =>
      obtain ⟨y, hy⟩ := toOption_outcome_eq_some.mp h
      exact ⟨index, y, .issueCredential index, hy⟩
    | issue _ | revoke _ | update _ _ => cases h
  · rintro ⟨index, y, hc, hy⟩
    cases hc <;> exact toOption_outcome_eq_some.mpr ⟨y, hy⟩

/-- A credential that is issued is for the index that is handed out. -/
theorem handsOut?_of_issueCredential {b : RevocableBinding} {x y : Registry × σ}
    (h : issueCredential tails index x = .ok b y) :
    (Call.issueCredential index).handsOut? tails x = some b.witness.index := by
  obtain ⟨i, z, ha, h⟩ := Session.bind_eq_ok.mp h
  obtain ⟨r', t⟩ := z
  obtain ⟨_, _, hget, h⟩ := Session.bind_eq_ok.mp h
  cases hget
  obtain ⟨w, u, hw, h⟩ := Session.bind_eq_ok.mp h
  cases h
  obtain ⟨hi, -⟩ := Witness.create_eq_ok hw
  rw [hi]
  exact toOption_outcome_eq_some.mpr ⟨_, ha⟩

theorem mem_free_of_handsOut? {c : Call} (h : c.handsOut? tails (r, s) = some i) :
    i ∈ r.free ∧ i ∈ (c.perform tails (r, s)).1.assigned := by
  obtain ⟨index, ⟨r', t⟩, hc, ha⟩ := Call.handsOut?_eq_some.mp h
  obtain ⟨hfree, hsets⟩ := sets_of_assign ha
  rw [hc.registry_perform, Session.after_of_ok ha]
  exact ⟨hfree, (hsets i).1.mpr (.inl rfl)⟩

theorem mem_free_of_handedOut {calls : List Call} {x : Registry × σ}
    (h : i ∈ handedOut tails calls x) :
    i ∈ IndexSet.upTo x.1.capacity ∧ ¬ i ∈ x.1.assigned := by
  induction calls generalizing x with
  | nil => cases h
  | cons c calls ih =>
    obtain ⟨r, s⟩ := x
    rcases List.mem_append.mp h with h | h
    · obtain ⟨hfree, -⟩ := mem_free_of_handsOut? (Option.mem_toList.mp h)
      obtain ⟨hi, hassigned, -⟩ := mem_free.mp hfree
      exact ⟨hi, hassigned⟩
    · have hchange := change_perform tails r c s
      obtain ⟨hi, hassigned⟩ := ih h
      rw [hchange.sameTerms.capacity] at hi
      exact ⟨hi, fun hmem => hassigned (hchange.assigned_mono hmem)⟩

/-- No index is handed out twice. -/
theorem handedOut_nodup (tails : TailsSource σ) (calls : List Call) (x : Registry × σ) :
    (handedOut tails calls x).Nodup := by
  induction calls generalizing x with
  | nil => exact .nil
  | cons c calls ih =>
    obtain ⟨r, s⟩ := x
    refine List.Nodup.append ?_ (ih _) ?_
    · cases c.handsOut? tails (r, s) <;> simp
    · intro i hi hi'
      obtain ⟨-, hassigned⟩ := mem_free_of_handsOut? (Option.mem_toList.mp hi)
      exact (mem_free_of_handedOut hi').2 hassigned

/-- As long as the entries can be had, indices are handed out in ascending order while there are
free ones. -/
theorem exists_assign_of_available {good : σ → Prop} {is : List Int}
    (ha : tails.Available r.capacity good) (hm : r.Marked) (hs : good s)
    (hf : r.free.toList = i :: is) :
    ∃ r' t, assign tails none (r, s) = .ok i (r', t) ∧ good t := by
  obtain ⟨hfree, -⟩ := IndexSet.least_of_toList hf
  obtain ⟨a, t, hfetch, ht⟩ := ha i (mem_free.mp hfree).1 s hs
  have hassign := assign_of_free tails hfree hm s
  simp only [assign_none, free?_of_cons hf]
  rw [hfetch] at hassign
  cases hk : r.issuance with
  | byDefault =>
    rw [hk] at hassign
    exact ⟨_, s, hassign, hs⟩
  | onDemand =>
    rw [hk] at hassign
    obtain ⟨r', hr'⟩ := hassign
    exact ⟨r', t, hr', ht⟩

theorem assign_of_full (tails : TailsSource σ) (s : σ) (h : ∀ i, ¬ i ∈ r.free) :
    assign tails none (r, s) = .error (.registryFull r.id r.capacity) (r, s) := by
  rw [assign_none, free?_eq_none.mpr h]

/-- Request after request: the free indices are handed out in ascending order, and once there is
none left, each further request is told that the registry is full. -/
theorem handedOut_replicate {good : σ → Prop} (ha : tails.Available r.capacity good)
    (hm : r.Marked) (hs : good s) (n : Nat) :
    let calls := List.replicate n (Call.assign none)
    handedOut tails calls (r, s) = r.free.toList.take n ∧
      (assign tails none).outcome (performAll tails calls (r, s)) =
        match r.free.toList[n]? with
        | some i => .ok i
        | none => .error (.registryFull r.id r.capacity) := by
  induction n generalizing r s with
  | zero =>
    refine ⟨rfl, ?_⟩
    cases hf : r.free.toList with
    | nil =>
      have hnone : ∀ i, ¬ i ∈ r.free := fun i => IndexSet.not_mem_of_toList hf
      exact Session.outcome_of_error (assign_of_full tails s hnone)
    | cons i is =>
      obtain ⟨r', t, hassign, -⟩ := exists_assign_of_available ha hm hs hf
      exact Session.outcome_of_ok hassign
  | succ n ih =>
    simp only [List.replicate_succ, handedOut, performAll_cons]
    cases hf : r.free.toList with
    | nil =>
      have hassign := assign_of_full tails s fun _ => IndexSet.not_mem_of_toList hf
      have hperform : (Call.assign none).perform tails (r, s) = (r, s) := by
        rw [Call.perform, Call.run, after_discard, Session.after_of_error hassign]
      rw [Call.handsOut?, Session.outcome_of_error hassign, hperform]
      obtain ⟨hout, hnext⟩ := ih ha hm hs
      rw [hf] at hout hnext
      rw [hout, hnext]
      exact ⟨by simp [Except.toOption], by simp⟩
    | cons i is =>
      obtain ⟨r', t, hassign, ht⟩ := exists_assign_of_available ha hm hs hf
      have hchange := change_of_assign hassign
      have hsame := hchange.sameTerms
      have hrest := toList_free_of_assign hassign hf
      have hperform : (Call.assign none).perform tails (r, s) = (r', t) := by
        rw [Call.perform, Call.run, after_discard, Session.after_of_ok hassign]
      rw [Call.handsOut?, Session.outcome_of_ok hassign, hperform]
      rw [← hsame.capacity] at ha
      obtain ⟨hout, hnext⟩ := ih ha (hchange.marked hm) ht
      rw [hout, hnext, hrest, hsame.id, hsame.capacity]
      exact ⟨by simp [Except.toOption], by simp⟩

/-- What becomes of each request for an index. -/
structure Assigns (tails : TailsSource σ) (r : Registry) (s : σ) : Prop where
  least : ∀ i, i ∈ r.free → (∀ j, j ∈ r.free → i ≤ j) →
    assign tails none (r, s) = assign tails (some i) (r, s)
  full : (∀ i, ¬ i ∈ r.free) →
    assign tails none (r, s) = .error (.registryFull r.id r.capacity) (r, s)
  taken : ∀ i, i ∈ IndexSet.upTo r.capacity → i ∈ r.assigned ∨ i ∈ r.revoked →
    assign tails (some i) (r, s) = .error (.inconsistent (.alreadyAssigned i)) (r, s)
  /-- A free index is refused only where its entry cannot be had. -/
  free : ∀ i, i ∈ r.free → (∃ x, assign tails (some i) (r, s) = .ok i x) ∨
    ∃ e t, tails i s = .error e t ∧ assign tails (some i) (r, s) = .error e (r, t)
  unchanged : ∀ index e x, assign tails index (r, s) = .error e x → x.1 = r

theorem assigns (hm : r.Marked) (tails : TailsSource σ) (s : σ) : Assigns tails r s := by
  refine ⟨fun i hi hmin => ?_, assign_of_full tails s, fun i hi ht => ?_, fun i hi => ?_,
    fun index e x h => ?_⟩
  · simp only [assign_none, free?_eq_some.mpr ⟨hi, hmin⟩]
  · refine assign_of_taken tails s hi (Bool.not_eq_false _ |>.mp fun hfalse => ?_)
    obtain ⟨hassigned, hrevoked⟩ := isTaken_eq_false.mp hfalse
    exact ht.elim hassigned hrevoked
  · have hassign := assign_of_free tails hi hm s
    cases hk : r.issuance with
    | byDefault =>
      rw [hk] at hassign
      exact .inl ⟨_, hassign⟩
    | onDemand =>
      rw [hk] at hassign
      cases hfetch : tails i s with
      | ok a t =>
        rw [hfetch] at hassign
        obtain ⟨r', hr'⟩ := hassign
        exact .inl ⟨_, hr'⟩
      | error e t =>
        rw [hfetch] at hassign
        exact .inr ⟨e, t, rfl, hassign⟩
  · rcases assign_or_error tails r index s with ⟨e', t, ha⟩ | ⟨i, r', t, ha, -⟩
    · rw [h] at ha
      cases ha
      rfl
    · rw [h] at ha
      cases ha

/-- When a registry refuses to hand out an index, for want of any or for this one. -/
structure Refuses (tails : TailsSource σ) (r : Registry) (s : σ) : Prop where
  full : (∃ id n x, assign tails none (r, s) = .error (.registryFull id n) x) ↔
    ∀ i, ¬ i ∈ r.free
  taken : ∀ i, i ∈ IndexSet.upTo r.capacity →
    ((∃ cause x, assign tails (some i) (r, s) = .error (.inconsistent cause) x) ↔
      i ∈ r.assigned ∨ i ∈ r.revoked)

theorem Assigns.error_of_free {e : Failure} {x : Registry × σ} (h : Assigns tails r s)
    (hi : i ∈ r.free) (he : assign tails (some i) (r, s) = .error e x) :
    ∃ t, tails i s = .error e t := by
  rcases h.free i hi with ⟨y, hok⟩ | ⟨e', t, hfetch, herror⟩
  · rw [he] at hok
    cases hok
  · rw [he] at herror
    cases herror
    exact ⟨t, hfetch⟩

theorem refuses (hm : r.Marked) (hown : tails.NeverRefuses) (s : σ) : Refuses tails r s := by
  have hassigns := assigns hm tails s
  constructor
  · refine ⟨?_, fun h => ⟨_, _, _, hassigns.full h⟩⟩
    rintro ⟨id, n, x, h⟩
    refine free?_eq_none.mp (Option.eq_none_iff_forall_ne_some.mpr fun i hi => ?_)
    obtain ⟨hfree, hmin⟩ := free?_eq_some.mp hi
    rw [hassigns.least i hfree hmin] at h
    obtain ⟨t, hfetch⟩ := hassigns.error_of_free hfree h
    exact (hown i s _ t hfetch).1 id n rfl
  · intro i hi
    refine ⟨?_, fun h => ⟨_, _, hassigns.taken i hi h⟩⟩
    rintro ⟨cause, x, h⟩
    by_contra hnot
    have hfree := mem_free.mpr ⟨hi, not_or.mp hnot⟩
    obtain ⟨t, hfetch⟩ := hassigns.error_of_free hfree h
    exact (hown i s _ t hfetch).2 cause rfl

end Registry

namespace Chronicle

variable {σ : Type} {tails : TailsSource σ} {h : Chronicle σ}

/-- The registry knows of every index in its deltas. -/
structure Tracks (h : Chronicle σ) : Prop where
  issued : ∀ d, d ∈ h.deltas → ∀ i, i ∈ d.issued → i ∈ h.registry.assigned
  revoked : ∀ d, d ∈ h.deltas → ∀ i, i ∈ d.revoked → i ∈ h.registry.revoked
  marked : h.registry.Marked

theorem tracks_opening {r : Registry} (s : σ) (hm : r.Marked) : (opening r s).Tracks :=
  ⟨by simp [opening], by simp [opening], hm⟩

theorem Tracks.record (ht : h.Tracks) (c : Registry.Call) : (h.record tails c).Tracks := by
  have hchange := Registry.change_perform tails h.registry c h.source
  cases hx : c.perform tails (h.registry, h.source) with
  | mk r s =>
    rw [hx] at hchange
    have hmarked := hchange.marked ht.marked
    cases hchange with
    | stay =>
      rw [record_of_same hx rfl]
      exact ⟨ht.issued, ht.revoked, hmarked⟩
    | handOut i =>
      rw [record_of_same hx rfl]
      refine ⟨fun d hd j hj => ?_, ht.revoked, hmarked⟩
      exact IndexSet.mem_insert.mpr (.inr (ht.issued d hd j hj))
    | publish d _ t hp =>
      obtain ⟨l, hl, rfl⟩ := Registry.publish_eq_ok.mp hp.result
      rw [record_of_append hx hl]
      refine ⟨fun e he i hi => IndexSet.mem_union.mpr ?_,
        fun e he i hi => IndexSet.mem_union.mpr ?_, hmarked⟩
      · rcases List.mem_append.mp he with he | he
        · exact .inl (ht.issued e he i hi)
        · rw [List.mem_singleton.mp he] at hi
          exact .inr hi
      · rcases List.mem_append.mp he with he | he
        · exact .inl (ht.revoked e he i hi)
        · rw [List.mem_singleton.mp he] at hi
          exact .inr hi

theorem Tracks.recordAll (ht : h.Tracks) (calls : List Registry.Call) :
    (h.recordAll tails calls).Tracks := by
  induction calls generalizing h with
  | nil => exact ht
  | cons c calls ih => exact ih (ht.record c)

theorem tracks_of_start {m : Modulus} {id : String} {capacity : Int} {issuance : Issuance}
    {limit : Option Int} {r : Registry} {s t : σ}
    (hs : Registry.start m tails id capacity issuance limit s = .ok r t) :
    (opening r t).Tracks := by
  obtain ⟨head, l, -, -, -, rfl⟩ := Registry.start_eq_ok hs
  refine tracks_opening t ?_
  rintro rfl i hi
  exact (IndexSet.not_mem_empty i hi).elim

end Chronicle

namespace Registry

variable {σ : Type} {tails : TailsSource σ}

/-- In every state of a run: no index is handed out twice, out of range, after it has been revoked
or, on demand, after it has been issued; the least free index is the next one, an index is refused
only if it is taken, and a refusal leaves the registry as it was; and as long as the entries can be
had, all free indices are handed out in ascending order before the registry is full. -/
theorem handedOut_of_run {m : Modulus} {id : String} {capacity : Int} {issuance : Issuance}
    {limit : Option Int} {r : Registry} {s t : σ}
    (hs : start m tails id capacity issuance limit s = .ok r t) (calls : List Call) :
    let h := Chronicle.recordAll tails calls (.opening r t)
    let x := (h.registry, h.source)
    performAll tails calls (r, t) = x ∧
    (handedOut tails calls (r, t)).Nodup ∧
    (∀ i, i ∈ handedOut tails calls (r, t) → i ∈ IndexSet.upTo capacity.toNat) ∧
    (∀ (c : Call) i, c.handsOut? tails x = some i →
      ∀ d, d ∈ h.deltas → ¬ i ∈ d.revoked ∧ ¬ i ∈ d.issued) ∧
    (∀ index b y, issueCredential tails index x = .ok b y →
      (Call.issueCredential index).handsOut? tails x = some b.witness.index) ∧
    Assigns tails h.registry h.source ∧
    (tails.NeverRefuses → Refuses tails h.registry h.source) ∧
    ∀ good, tails.Available capacity.toNat good → good h.source → ∀ n,
      let more := List.replicate n (Call.assign none)
      handedOut tails more x = h.registry.free.toList.take n ∧
        (assign tails none).outcome (performAll tails more x) =
          match h.registry.free.toList[n]? with
          | some i => .ok i
          | none => .error (.registryFull h.registry.id h.registry.capacity) := by
  intro h x
  have htracks : h.Tracks := (Chronicle.tracks_of_start hs).recordAll calls
  have hrun : performAll tails calls (r, t) = x :=
    Chronicle.performAll_eq_recordAll calls (.opening r t)
  have hsame : SameTerms r h.registry := by
    have := sameTerms_performAll tails calls r t
    rwa [hrun] at this
  have hcapacity : r.capacity = capacity.toNat := by
    obtain ⟨head, l, -, -, -, rfl⟩ := start_eq_ok hs
    rfl
  refine ⟨hrun, handedOut_nodup tails calls (r, t), fun i hi => ?_, fun c i hc d hd => ?_,
    fun index b y => handsOut?_of_issueCredential, assigns htracks.marked tails _,
    fun hown => refuses htracks.marked hown _, fun good ha hgood n => ?_⟩
  · rw [← hcapacity]
    exact (mem_free_of_handedOut hi).1
  · obtain ⟨hfree, -⟩ := mem_free_of_handsOut? hc
    obtain ⟨-, hassigned, hrevoked⟩ := mem_free.mp hfree
    exact ⟨fun hmem => hrevoked (htracks.revoked d hd i hmem),
      fun hmem => hassigned (htracks.issued d hd i hmem)⟩
  · rw [← hcapacity, ← hsame.capacity] at ha
    exact handedOut_replicate ha htracks.marked hgood n

theorem handedOut_of_run_fifteen :
    let tails := TailsSource.watched [2, 4, 5, 7]
    let calls := [Call.issue (.ofList [1]), .revoke (.ofList [1]), .assign (some 1),
      .issueCredential none]
    tails.NeverRefuses ∧ tails.Available (4 : Int).toNat (fun w => w.withheld = []) ∧
      ∃ r t, start ⟨15, by decide⟩ tails "registry" 4 .onDemand (some 1) ⟨[], []⟩ = .ok r t ∧
        handedOut tails calls (r, t) = [2] ∧
        ∀ n, handedOut tails (List.replicate n (.assign none)) (performAll tails calls (r, t)) =
          [3, 4].take n := by
  intro tails calls
  have hgood := TailsSource.watched_available [2, 4, 5, 7]
  have hs : start ⟨15, by decide⟩ tails "registry" 4 .onDemand (some 1) ⟨[], []⟩ = .ok _ _ := rfl
  refine ⟨TailsSource.watched_neverRefuses _, hgood, _, _, hs, by decide +kernel, fun n => ?_⟩
  obtain ⟨hrun, -, -, -, -, -, -, hmore⟩ := handedOut_of_run hs calls
  obtain ⟨hout, -⟩ := hmore _ hgood (by decide +kernel) n
  rw [hrun]
  refine hout.trans (congrArg (List.take n) ?_)
  decide +kernel

end Registry
end Revocation
