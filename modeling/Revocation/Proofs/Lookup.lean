import Revocation.Proofs.Retention

/-!
Which of the kept deltas a lookup answers with: of all stretches that lead from the one value to the
other, the shortest, and of equally short ones the latest. Main statements: `shortest_le`, which
says what the search over positions picks, `between_eq_ok_iff` and `looksUp_submitAll`.
-/
namespace Revocation

variable {V : Type}

namespace Delta

/-- The stretch of the deltas from position `i` to position `j` leads from one value to another. -/
structure Spans (ds : List (Delta V)) (source target : V) (i j : Nat) : Prop where
  ordered : i ≤ j
  leaves : ∃ d, ds[i]? = some d ∧ d.source = source
  reaches : ∃ d, ds[j]? = some d ∧ d.target = target

/-- No stretch between the two values is shorter, and none that is as short begins later. -/
structure Nearest (ds : List (Delta V)) (source target : V) (i j : Nat) : Prop where
  spans : Spans ds source target i j
  least : ∀ k l, Spans ds source target k l → j - i ≤ l - k
  latest : ∀ k l, Spans ds source target k l → l - k = j - i → k ≤ i

variable {ds : List (Delta V)} {source target : V} {i j k l : Nat}

theorem Nearest.unique (h : Nearest ds source target i j) (h' : Nearest ds source target k l) :
    i = k ∧ j = l := by
  have hwidth : l - k = j - i :=
    Nat.le_antisymm (h'.least i j h.spans) (h.least k l h'.spans)
  have hki := h.latest k l h'.spans hwidth
  have hik := h'.latest i j h.spans hwidth.symm
  have hij := h.spans.ordered
  have hkl := h'.spans.ordered
  omega

/-- Where two deltas of the nearest stretch meet is neither of the two values: the stretch could be
cut short there. -/
theorem Nearest.inner (h : Nearest ds source target i j) {d e : Delta V} (hik : i ≤ k)
    (hkj : k < j) (hd : ds[k]? = some d) (he : ds[k + 1]? = some e) (hmeet : d.target = e.source) :
    d.target ≠ source ∧ d.target ≠ target := by
  constructor
  · intro hsource
    have hshort := h.least (k + 1) j ⟨hkj, ⟨e, he, hmeet ▸ hsource⟩, h.spans.reaches⟩
    omega
  · intro htarget
    have hshort := h.least i k ⟨hik, h.spans.leaves, ⟨d, hd, htarget⟩⟩
    omega

end Delta

namespace Ledger

variable [DecidableEq V] {l : Ledger V} {initial : V} {all ds : List (Delta V)} {source target : V}
  {i j p q q' : Nat}

/-- What is shortest is no wider than any other span, and begins no earlier than one of the same
width. -/
theorem shortest_le {ss : List (Nat × Nat)} {s : Nat × Nat} (h : ss.Pairwise (·.1 < ·.1))
    (hs : shortest ss = some s) : ∀ t, t ∈ ss →
      s.2 - s.1 ≤ t.2 - t.1 ∧ (t.2 - t.1 = s.2 - s.1 → t.1 ≤ s.1) := by
  induction ss generalizing s with
  | nil => cases hs
  | cons u ss ih =>
    obtain ⟨hu, hss⟩ := List.pairwise_cons.mp h
    rw [shortest] at hs
    cases hr : shortest ss with
    | none =>
      rw [hr] at hs
      cases hs
      cases shortest_eq_none.mp hr
      intro t ht
      cases List.mem_singleton.mp ht
      exact ⟨Nat.le_refl _, fun _ => Nat.le_refl _⟩
    | some v =>
      rw [hr] at hs
      have hv := ih hss hr
      have huv := hu v (shortest_mem hr)
      simp only at hs
      split at hs <;> cases hs
      · next hlt =>
        -- Only something wider comes after the new span.
        refine List.forall_mem_cons.mpr ⟨by omega, fun t ht => ?_⟩
        have := hv t ht
        omega
      · next hge => exact List.forall_mem_cons.mpr ⟨by omega, hv⟩

theorem find?_le {ends : List Nat} (h : ends.Pairwise (· < ·))
    (hq : ends.find? (p ≤ ·) = some q) (hq' : q' ∈ ends) (hp : p ≤ q') : q ≤ q' := by
  obtain ⟨-, before, after, rfl, hbefore⟩ := List.find?_eq_some_iff_append.mp hq
  rcases List.mem_append.mp hq' with hmem | hmem
  · have hnot := hbefore q' hmem
    simp only [Bool.not_eq_true', decide_eq_false_iff_not] at hnot
    exact (hnot hp).elim
  · have hafter := (List.pairwise_append.mp h).2.1
    rcases List.mem_cons.mp hmem with rfl | hmem
    · exact Nat.le_refl q'
    · exact Nat.le_of_lt ((List.pairwise_cons.mp hafter).1 q' hmem)

theorem pairwise_spans {starts : List Nat} (ends : List Nat) (h : starts.Pairwise (· < ·)) :
    (spans starts ends).Pairwise (·.1 < ·.1) := by
  refine List.Pairwise.filterMap _ (fun p p' hlt s hs s' hs' => ?_) h
  obtain ⟨q, -, rfl⟩ := Option.map_eq_some_iff.mp hs
  obtain ⟨q', -, rfl⟩ := Option.map_eq_some_iff.mp hs'
  exact hlt

/-- Positions among the kept deltas are those in the whole history, counted from the base. -/
theorem spans_iff_connects (h : l.Records initial all) :
    Delta.Spans l.deltas source target i j ↔
      l.Connects all source target (l.base + i) (l.base + j) := by
  have hget : ∀ k, l.deltas[k]? = all[l.base + k]? := by
    intro k
    rw [h.deltas, List.getElem?_drop]
  constructor
  · rintro ⟨hij, hleaves, hreaches⟩
    rw [hget] at hleaves hreaches
    exact ⟨Nat.le_add_right _ _, by omega, hleaves, hreaches⟩
  · rintro ⟨-, hij, hleaves, hreaches⟩
    rw [← hget] at hleaves hreaches
    exact ⟨by omega, hleaves, hreaches⟩

/-- The end that is found for a start is the first one that the start leads to. -/
theorem exists_span_le (h : l.Records initial all) (hc : l.Connects all source target p q) :
    ∃ q', (p, q') ∈ spans (Positions.get source l.leaving) (Positions.get target l.reaching) ∧
      q' ≤ q := by
  obtain ⟨q', hspan⟩ := exists_mem_spans h hc
  have hascending := (Positions.lists_ofDeltas Delta.target l.base l.deltas target).ascending
  rw [← h.reaching] at hascending
  have hreaches := (mem_get_reaching h).mpr ⟨Nat.le_trans hc.kept hc.ordered, hc.reaches⟩
  exact ⟨q', hspan, find?_le hascending (mem_spans.mp hspan).2 hreaches hc.ordered⟩

/-- What the search over positions picks is the nearest stretch. -/
theorem nearest_of_shortest (h : l.Records initial all)
    (hs : shortest (spans (Positions.get source l.leaving) (Positions.get target l.reaching)) =
      some (p, q)) : Delta.Nearest l.deltas source target (p - l.base) (q - l.base) := by
  have hstarts := (Positions.lists_ofDeltas Delta.source l.base l.deltas source).ascending
  rw [← h.leaving] at hstarts
  have hmin := shortest_le (pairwise_spans _ hstarts) hs
  have hpq := connects_of_mem_spans h (shortest_mem hs)
  have hp : l.base + (p - l.base) = p := Nat.add_sub_cancel' hpq.kept
  have hq : l.base + (q - l.base) = q :=
    Nat.add_sub_cancel' (Nat.le_trans hpq.kept hpq.ordered)
  -- Any other stretch is no shorter than the span that its start has in the search.
  have hother : ∀ k n, Delta.Spans l.deltas source target k n →
      q - p ≤ n - k ∧ (n - k = q - p → l.base + k ≤ p) := by
    intro k n hkn
    obtain ⟨n', hspan, hle⟩ := exists_span_le h ((spans_iff_connects h).mp hkn)
    have hwidth := hmin _ hspan
    have hordered := (connects_of_mem_spans h hspan).ordered
    simp only at hwidth
    omega
  refine ⟨(spans_iff_connects h).mpr (by rwa [hp, hq]), fun k n hkn => ?_, fun k n hkn hw => ?_⟩
  · have := hother k n hkn
    omega
  · have := hother k n hkn
    omega

/-- The value is the head, or an end of a delta that is kept. -/
def IsCheckpoint (l : Ledger V) (v : V) : Prop :=
  v = l.head ∨ ∃ d, d ∈ l.deltas ∧ (d.source = v ∨ d.target = v)

theorem knows_iff_isCheckpoint (h : l.Records initial all) (v : V) :
    l.knows v ↔ l.IsCheckpoint v := by
  rw [knows_iff h, IsCheckpoint]
  simp only [and_or_left, exists_or]

theorem knows_of_spans (h : l.Records initial all)
    (hij : Delta.Spans l.deltas source target i j) : l.knows source ∧ l.knows target := by
  obtain ⟨d, hd, hsource⟩ := hij.leaves
  obtain ⟨e, he, htarget⟩ := hij.reaches
  constructor
  · exact (knows_iff h source).mpr (.inr (.inl ⟨d, List.mem_of_getElem? hd, hsource⟩))
  · exact (knows_iff h target).mpr (.inr (.inr ⟨e, List.mem_of_getElem? he, htarget⟩))

/-- As long as any stretch leads from the one value to the other, there is an answer. -/
theorem exists_between_of_spans (h : l.Records initial all)
    (hij : Delta.Spans l.deltas source target i j) : ∃ ds, l.between source target = .ok ds := by
  obtain ⟨hsource, htarget⟩ := knows_of_spans h hij
  exact exists_between h hsource htarget (.inr ⟨_, _, (spans_iff_connects h).mp hij⟩)

/-- Between different values a lookup answers the nearest stretch, and nothing else. -/
theorem between_eq_ok_iff (h : l.Records initial all) (hne : source ≠ target) :
    l.between source target = .ok ds ↔
      ∃ i j, Delta.Nearest l.deltas source target i j ∧ ds = stretch l.deltas i j := by
  have hfound : ∀ ds, l.between source target = .ok ds →
      ∃ i j, Delta.Nearest l.deltas source target i j ∧ ds = stretch l.deltas i j := by
    intro ds hb
    obtain ⟨-, -, ⟨heq, -⟩ | ⟨-, p, q, hs, rfl⟩⟩ := between_cases hb
    · exact (hne heq).elim
    · have hpq := connects_of_mem_spans h (shortest_mem hs)
      refine ⟨_, _, nearest_of_shortest h hs, ?_⟩
      have hkept := hpq.kept
      have hordered := hpq.ordered
      rw [stretch]
      congr 1
      omega
  refine ⟨hfound ds, ?_⟩
  rintro ⟨i, j, hn, rfl⟩
  obtain ⟨ds, hb⟩ := exists_between_of_spans h hn.spans
  obtain ⟨i', j', hn', rfl⟩ := hfound ds hb
  obtain ⟨rfl, rfl⟩ := hn.unique hn'
  exact hb

/-- What a lookup answers, told by the head and the kept deltas alone. -/
structure LooksUp (l : Ledger V) (source target : V) : Prop where
  unknown : ¬ (l.IsCheckpoint source ∧ l.IsCheckpoint target) →
    ∃ cause, l.between source target = .error (.unknownState cause)
  same : l.IsCheckpoint source → source = target → l.between source target = .ok []
  nearest : source ≠ target → ∀ ds, l.between source target = .ok ds ↔
    ∃ i j, Delta.Nearest l.deltas source target i j ∧ ds = stretch l.deltas i j
  unconnected : source ≠ target →
    ((∃ cause, l.between source target = .error (.unknownState cause)) ↔
      ¬ ∃ i j, Delta.Spans l.deltas source target i j)
  chained : ∀ ds, l.between source target = .ok ds →
    Delta.checkChain ds (some source) (some target) = .ok ()
  inner : ∀ ds, l.between source target = .ok ds → ∀ k d e, ds[k]? = some d →
    ds[k + 1]? = some e → d.target = e.source ∧ d.target ≠ source ∧ d.target ≠ target

theorem unconnected_iff (h : l.Records initial all) (hne : source ≠ target) :
    (∃ cause, l.between source target = .error (.unknownState cause)) ↔
      ¬ ∃ i j, Delta.Spans l.deltas source target i j := by
  constructor
  · rintro ⟨cause, hb⟩ ⟨i, j, hij⟩
    obtain ⟨ds, hds⟩ := exists_between_of_spans h hij
    rw [hb] at hds
    cases hds
  · intro hnone
    cases hb : l.between source target with
    | error e =>
      obtain ⟨cause, rfl⟩ := between_eq_error hb
      exact ⟨cause, rfl⟩
    | ok ds =>
      obtain ⟨i, j, hn, -⟩ := (between_eq_ok_iff h hne).mp hb
      exact (hnone ⟨i, j, hn.spans⟩).elim

/-- No delta but the first of an answer starts at one of the two values. -/
theorem inner_of_between (h : l.Records initial all) (hb : l.between source target = .ok ds)
    {k : Nat} {d e : Delta V} (hd : ds[k]? = some d) (he : ds[k + 1]? = some e) :
    d.target = e.source ∧ d.target ≠ source ∧ d.target ≠ target := by
  have hmeet : d.target = e.source := by
    rw [(linked_of_between h hb).1.source_eq he, Delta.finish_take_succ hd]
  refine ⟨hmeet, ?_⟩
  obtain ⟨-, -, ⟨-, rfl⟩ | ⟨hne, -⟩⟩ := between_cases hb
  · cases hd
  · obtain ⟨i, j, hn, rfl⟩ := (between_eq_ok_iff h hne).mp hb
    rw [stretch, List.getElem?_take, List.getElem?_drop] at hd he
    split at he
    · next hk =>
      rw [if_pos (by omega)] at hd
      exact hn.inner (Nat.le_add_right i k) (by omega) hd he hmeet
    · cases he

theorem Records.looksUp (h : l.Records initial all) (source target : V) :
    l.LooksUp source target := by
  refine ⟨fun hnot => ?_, fun hsource heq => ?_, fun hne ds => between_eq_ok_iff h hne,
    unconnected_iff h, fun ds hb => ?_, fun ds hb k d e => inner_of_between h hb⟩
  · cases hb : l.between source target with
    | error e =>
      obtain ⟨cause, rfl⟩ := between_eq_error hb
      exact ⟨cause, rfl⟩
    | ok ds =>
      obtain ⟨hsource, htarget, -⟩ := between_cases hb
      rw [knows_iff_isCheckpoint h] at hsource htarget
      exact (hnot ⟨hsource, htarget⟩).elim
  · subst heq
    have hknown := (knows_iff_isCheckpoint h source).mpr hsource
    rw [between, hknown]
    simp
  · exact (linked_of_between h hb).1.checkChain fun v hv => by
      cases hv
      exact (finish_of_between h hb).symm

/-- Whatever has been submitted to a ledger, with or without success: a lookup fails for values that
are no checkpoints or that nothing kept connects, and else answers the shortest stretch between
them, the latest of several, which links up from the one value to the other and meets neither on the
way. -/
theorem looksUp_submitAll (initial : V) {limit : Option Int} (hlimit : ∀ n ∈ limit, 1 ≤ n)
    (ds : List (Delta V)) (source target : V) :
    ∃ l, start initial limit = .ok l ∧ (submitAll ds l).LooksUp source target := by
  obtain ⟨l, hl⟩ := exists_start initial hlimit
  obtain ⟨hrecords, -⟩ := records_submitAll (records_start hl) ds
  exact ⟨l, hl, hrecords.looksUp source target⟩

/-- Five deltas are kept of the six that are taken. Two stretches of the same length lead from 3 to
2, and the later one is the answer. -/
theorem looksUp_submitAll_five :
    let d (source target : Nat) (i : Int) : Delta Nat := ⟨source, target, .ofList [i], ∅, by simp⟩
    let ds := [d 2 3 1, d 3 5 2, d 9 9 3, d 5 2 4, d 2 3 5, d 3 5 6, d 5 2 7]
    (∀ n ∈ some (5 : Int), 1 ≤ n) ∧ ∃ l, start 2 (some 5) = .ok l ∧
      (submitAll ds l).deltas = [d 3 5 2, d 5 2 4, d 2 3 5, d 3 5 6, d 5 2 7] ∧
        (submitAll ds l).between 3 2 = .ok [d 3 5 6, d 5 2 7] ∧ (submitAll ds l).LooksUp 3 2 := by
  intro d ds
  have hlimit : ∀ n ∈ some (5 : Int), 1 ≤ n := by decide
  have hs : start 2 (some 5) = .ok _ := rfl
  obtain ⟨l, hl, hlooksUp⟩ := looksUp_submitAll 2 hlimit ds 3 2
  cases hs.symm.trans hl
  refine ⟨hlimit, _, hs, ?kept, ?between, hlooksUp⟩
  case kept => decide +kernel
  case between => decide +kernel

end Ledger
end Revocation
