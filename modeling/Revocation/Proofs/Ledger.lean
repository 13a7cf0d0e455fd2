import Revocation.Ledger

/-!
A ledger as the newest part of everything that was ever published. Main statements:
`Records.append`, by which a ledger keeps track of its history, `between_eq_ok`, which says what
stretch of the history a lookup answers, and `exists_between_head_iff`, by which whatever is still
known leads to the head.
-/
namespace Revocation

variable {V : Type}

namespace Delta

theorem ofSets_eq_ok {source target : V} {issued revoked : IndexSet}
    (h : ∀ i, i ∈ issued → ¬ i ∈ revoked) :
    ofSets source target issued revoked = .ok ⟨source, target, issued, revoked, h⟩ := by
  have hi : (issued.inter revoked).isEmpty := by
    simpa [IndexSet.isEmpty_iff] using h
  rw [ofSets, dif_pos hi]

/-- Each delta of a history starts where the one before it ends, the first one at `start`. -/
def Linked (start : V) : List (Delta V) → Prop
  | [] => True
  | d :: ds => d.source = start ∧ Linked d.target ds

/-- The checkpoint that a history leads to. -/
def finish (start : V) (ds : List (Delta V)) : V := ds.foldl (fun _ d => d.target) start

theorem finish_append (start : V) (ds es : List (Delta V)) :
    finish start (ds ++ es) = finish (finish start ds) es := List.foldl_append

theorem linked_append {start : V} {ds es : List (Delta V)} :
    Linked start (ds ++ es) ↔ Linked start ds ∧ Linked (finish start ds) es := by
  induction ds generalizing start with
  | nil => simp [Linked, finish]
  | cons d ds ih =>
    rw [List.cons_append, Linked, Linked, ih, and_assoc]
    rfl

theorem finish_take_succ {start : V} {ds : List (Delta V)} {p : Nat} {d : Delta V}
    (hd : ds[p]? = some d) : finish start (ds.take (p + 1)) = d.target := by
  rw [List.take_add_one, hd, finish_append]
  rfl

theorem Linked.source_eq {start : V} {ds : List (Delta V)} (h : Linked start ds) {p : Nat}
    {d : Delta V} (hd : ds[p]? = some d) : d.source = finish start (ds.take p) := by
  obtain ⟨hp, hget⟩ := List.getElem?_eq_some_iff.mp hd
  have hsplit : ds = ds.take p ++ d :: ds.drop (p + 1) := by
    rw [← hget, List.getElem_cons_drop, List.take_append_drop]
  rw [hsplit, linked_append] at h
  exact h.2.1

theorem last_target (d : Delta V) (ds : List (Delta V)) (start : V) :
    (last d ds).target = finish start (d :: ds) := by
  induction ds generalizing d start with
  | nil => rfl
  | cons e ds ih => exact ih e d.target

/-- No index is issued by two of the deltas, and none is revoked by two of them. -/
structure Unrepeated (ds : List (Delta V)) : Prop where
  issued : ds.Pairwise fun d e => ∀ i, i ∈ d.issued → ¬ i ∈ e.issued
  revoked : ds.Pairwise fun d e => ∀ i, i ∈ d.revoked → ¬ i ∈ e.revoked

variable [DecidableEq V] {start : V} {ds : List (Delta V)}

/-- A chain has no gap if it goes on wherever its first delta ends. -/
theorem gap?_cons_eq_none {p : Nat} {d : Delta V} :
    gap? p (d :: ds) = none ↔ Linked d.target ds := by
  induction ds generalizing d p with
  | nil => simp [gap?, Linked]
  | cons e ds ih =>
    rw [gap?, Linked]
    split
    · next h => simp [h, ih]
    · next h => simp [Ne.symm h]

theorem Linked.checkChain (h : Linked start ds) {e : Option V} (he : ∀ v ∈ e, v = finish start ds) :
    checkChain ds (some start) e = .ok () := by
  cases ds with
  | nil =>
    rw [Delta.checkChain, if_neg]
    rintro ⟨-, hsome, hne⟩
    obtain ⟨v, rfl⟩ := Option.isSome_iff_exists.mp hsome
    exact hne (congrArg some (he v rfl).symm)
  | cons d ds =>
    have hgap : gap? 0 (d :: ds) = none := gap?_cons_eq_none.mpr h.2
    have hend : e.any (· ≠ (last d ds).target) = false := by
      rw [last_target d ds start]
      cases e with
      | none => rfl
      | some v => simp [he v rfl]
    simp only [Delta.checkChain, h.1, hgap, hend]
    simp

theorem linked_of_checkChain (h : Delta.checkChain ds (some start) none = .ok ()) :
    Linked start ds := by
  cases ds with
  | nil => trivial
  | cons d ds =>
    rw [Delta.checkChain] at h
    split at h
    · cases h
    · next hsource =>
      split at h
      · cases h
      · next hgap =>
        have hstart : start = d.source := by simpa using hsource
        exact ⟨hstart.symm, gap?_cons_eq_none.mp hgap⟩

/-- Whatever is wrong with a chain, it is inconsistent. -/
theorem checkChain_eq_error {a b : Option V} {f : Failure}
    (h : Delta.checkChain ds a b = .error f) : ∃ cause, f = .inconsistent cause := by
  cases ds with
  | nil =>
    rw [Delta.checkChain] at h
    split at h <;> cases h
    exact ⟨_, rfl⟩
  | cons d ds =>
    rw [Delta.checkChain] at h
    split at h
    · cases h
      exact ⟨_, rfl⟩
    · split at h
      · cases h
        exact ⟨_, rfl⟩
      · split at h <;> cases h
        exact ⟨_, rfl⟩

/-- A chain between two values is one from the first of them. -/
theorem checkChain_none {start finish : Option V} (h : Delta.checkChain ds start finish = .ok ()) :
    Delta.checkChain ds start none = .ok () := by
  cases ds with
  | nil => exact if_neg fun hends => Bool.noConfusion hends.2.1
  | cons d ds =>
    rw [Delta.checkChain] at h ⊢
    split at h
    · cases h
    · next hsource =>
      rw [if_neg hsource]
      split at h
      · cases h
      · rfl

theorem finish_of_checkChain {finish : V}
    (h : Delta.checkChain ds (some start) (some finish) = .ok ()) :
    Delta.finish start ds = finish := by
  cases ds with
  | nil =>
    rw [Delta.checkChain] at h
    split at h
    · cases h
    · next hends =>
      have heq : start = finish := by simpa using hends
      exact heq
  | cons d ds =>
    rw [Delta.checkChain] at h
    split at h
    · cases h
    · split at h
      · cases h
      · split at h
        · cases h
        · next hend =>
          have heq : finish = (last d ds).target := by simpa using hend
          rw [← last_target d ds start, heq]

end Delta

variable [DecidableEq V]

namespace Positions

theorem get_cons (v w : V) (qs : List Nat) (ps : Positions V) :
    get v ((w, qs) :: ps) = if v = w then qs else get v ps := by
  rw [get, List.lookup_cons]
  by_cases h : v = w
  · simp [h]
  · have hne : (v == w) = false := by simpa using h
    simp [h, hne, get]

theorem get_add (v w : V) (p : Nat) (ps : Positions V) :
    get v (add w p ps) = if v = w then get v ps ++ [p] else get v ps := by
  induction ps with
  | nil =>
    rw [add, get_cons]
    rfl
  | cons e ps ih =>
    obtain ⟨u, qs⟩ := e
    rw [add]
    by_cases hu : u = w
    · subst hu
      rw [if_pos rfl, get_cons, get_cons]
      by_cases hv : v = u <;> simp [hv]
    · rw [if_neg hu, get_cons, get_cons, ih]
      by_cases hv : v = u
      · subst hv
        simp [hu]
      · simp [hv]

theorem isSome_lookup_add (v w : V) (p : Nat) (ps : Positions V) :
    (List.lookup v (add w p ps)).isSome ↔ w = v ∨ (List.lookup v ps).isSome := by
  induction ps with
  | nil =>
    by_cases h : v = w
    · simp [add, h]
    · have hne : (v == w) = false := by simpa using h
      simp [add, List.lookup_cons, hne, Ne.symm h]
  | cons e ps ih =>
    obtain ⟨u, qs⟩ := e
    rw [add]
    by_cases hu : u = w
    · subst hu
      rw [if_pos rfl, List.lookup_cons, List.lookup_cons]
      by_cases hv : v = u
      · simp [hv]
      · have hne : (v == u) = false := by simpa using hv
        simp [hne, Ne.symm hv]
    · rw [if_neg hu, List.lookup_cons, List.lookup_cons]
      by_cases hv : v = u
      · simp [hv]
      · have hne : (v == u) = false := by simpa using hv
        simpa [hne] using ih

theorem isSome_lookup_ofDeltas (key : Delta V → V) (base : Nat) (deltas : List (Delta V)) (v : V) :
    (List.lookup v (ofDeltas key base deltas)).isSome ↔ ∃ d, d ∈ deltas ∧ key d = v := by
  suffices h : ∀ (es : List (Delta V × Nat)) (ps : Positions V),
      (List.lookup v (es.foldl (fun ps e => add (key e.1) e.2 ps) ps)).isSome ↔
        (∃ e, e ∈ es ∧ key e.1 = v) ∨ (List.lookup v ps).isSome by
    refine (h (deltas.zipIdx base) []).trans ?_
    have hmem : ∀ d, d ∈ deltas ↔ ∃ p, (d, p) ∈ deltas.zipIdx base := by
      intro d
      have h := List.mem_map (f := Prod.fst) (l := deltas.zipIdx base) (b := d)
      rw [List.zipIdx_map_fst] at h
      simpa using h
    simp only [Prod.exists, hmem]
    simp
  intro es
  induction es with
  | nil => simp
  | cons e es ih =>
    intro ps
    rw [List.foldl_cons, ih, isSome_lookup_add]
    simp only [List.mem_cons]
    grind

/-- The positions of a value are those of the deltas that have it, in ascending order. -/
theorem get_ofDeltas (key : Delta V → V) (base : Nat) (deltas : List (Delta V)) (v : V) :
    get v (ofDeltas key base deltas) =
      ((deltas.zipIdx base).filter fun e => key e.1 = v).map Prod.snd := by
  suffices h : ∀ (es : List (Delta V × Nat)) (ps : Positions V),
      get v (es.foldl (fun ps e => add (key e.1) e.2 ps) ps) =
        get v ps ++ (es.filter fun e => key e.1 = v).map Prod.snd by
    exact h (deltas.zipIdx base) []
  intro es
  induction es with
  | nil => simp
  | cons e es ih =>
    intro ps
    rw [List.foldl_cons, ih, get_add]
    by_cases hv : key e.1 = v
    · simp [hv]
    · simp [hv, Ne.symm hv]

theorem mem_get_ofDeltas {key : Delta V → V} {base : Nat} {deltas : List (Delta V)} {v : V}
    {p : Nat} : p ∈ get v (ofDeltas key base deltas) ↔
      base ≤ p ∧ ∃ d, deltas[p - base]? = some d ∧ key d = v := by
  rw [get_ofDeltas]
  simp only [List.mem_map, List.mem_filter, List.mem_zipIdx_iff_le_and_getElem?_sub,
    decide_eq_true_eq, Prod.exists]
  constructor
  · rintro ⟨d, q, ⟨⟨hq, hd⟩, hv⟩, rfl⟩
    exact ⟨hq, d, hd, hv⟩
  · rintro ⟨hp, d, hd, hv⟩
    exact ⟨d, p, ⟨⟨hp, hd⟩, hv⟩, rfl⟩

end Positions

namespace Ledger

variable {l l' : Ledger V} {initial : V} {all : List (Delta V)} {d : Delta V}

theorem head_of_append (h : l.append d = .ok l') : l'.head = d.target := by
  rw [append] at h
  split at h <;> cases h
  rfl

theorem limit_of_append (h : l.append d = .ok l') : l'.limit = l.limit := by
  rw [append] at h
  split at h <;> cases h
  rfl

/-- What a ledger keeps once `all` has been published from `initial` on. -/
structure Records (l : Ledger V) (initial : V) (all : List (Delta V)) : Prop where
  base : l.base = excess l.limit all.length
  deltas : l.deltas = all.drop l.base
  head : l.head = Delta.finish initial all
  leaving : l.leaving = Positions.ofDeltas Delta.source l.base l.deltas
  reaching : l.reaching = Positions.ofDeltas Delta.target l.base l.deltas
  linked : Delta.Linked initial all

theorem records_start {limit : Option Int} (h : start initial limit = .ok l) :
    l.Records initial [] := by
  cases limit with
  | none =>
    cases h
    exact ⟨rfl, rfl, rfl, rfl, rfl, trivial⟩
  | some n =>
    rw [start] at h
    split at h
    · cases h
      exact ⟨by simp [excess], by simp, rfl, rfl, rfl, trivial⟩
    · cases h

theorem excess_le (limit : Option Nat) (n : Nat) : excess limit n ≤ n := by
  cases limit <;> simp [excess]

/-- Pruning once more after one more delta prunes what one pruning would have. -/
theorem excess_succ (limit : Option Nat) (n : Nat) :
    excess limit (n + 1) = excess limit n + excess limit (n - excess limit n + 1) := by
  cases limit with
  | none => rfl
  | some k =>
    simp only [excess]
    omega

theorem Records.append (h : l.Records initial all) (ha : l.append d = .ok l') :
    l'.Records initial (all ++ [d]) := by
  rw [Ledger.append] at ha
  split at ha
  · next hd =>
    cases ha
    have hle : l.base ≤ all.length := h.base ▸ excess_le l.limit all.length
    have hlength : (l.deltas ++ [d]).length = all.length - l.base + 1 := by
      rw [h.deltas, List.length_append, List.length_drop, List.length_singleton]
    refine ⟨?_, ?_, ?_, rfl, rfl, ?_⟩
    · simp only [hlength, List.length_append, List.length_singleton]
      rw [excess_succ l.limit all.length, ← h.base]
    · simp only [hlength]
      rw [h.deltas, ← List.drop_append_of_le_length hle, List.drop_drop]
    · rw [Delta.finish_append]
      rfl
    · rw [Delta.linked_append]
      exact ⟨h.linked, hd.trans h.head, trivial⟩
  · cases ha

/-- How many deltas have been published in all. -/
def published (l : Ledger V) : Nat := l.base + l.length

theorem excess_succ_le {limit : Option Nat} (h : ∀ n ∈ limit, 0 < n) (n : Nat) :
    excess limit (n + 1) ≤ n := by
  cases limit with
  | none => exact Nat.zero_le n
  | some k =>
    have := h k rfl
    simp only [excess]
    omega

theorem published_of_append (h : l.append d = .ok l') : l'.published = l.published + 1 := by
  rw [append] at h
  split at h <;> cases h
  have hle := excess_le l.limit (l.deltas ++ [d]).length
  simp only [published, length, List.length_drop, List.length_append,
    List.length_singleton] at hle ⊢
  omega

theorem getLast?_of_append (h : l.append d = .ok l') : l'.deltas.getLast? = some d := by
  rw [append] at h
  split at h <;> cases h
  have hle := excess_succ_le l.limit_pos l.deltas.length
  simp only [List.length_append, List.length_singleton]
  rw [List.drop_append_of_le_length hle, List.getLast?_concat]

theorem knows_iff (h : l.Records initial all) (v : V) :
    l.knows v ↔
      v = l.head ∨ (∃ d, d ∈ l.deltas ∧ d.source = v) ∨ ∃ d, d ∈ l.deltas ∧ d.target = v := by
  rw [knows, Bool.or_eq_true, Bool.or_eq_true, decide_eq_true_eq, h.leaving, h.reaching,
    Positions.isSome_lookup_ofDeltas, Positions.isSome_lookup_ofDeltas, or_assoc]

theorem mem_spans {starts ends : List Nat} {p q : Nat} :
    (p, q) ∈ spans starts ends ↔ p ∈ starts ∧ ends.find? (p ≤ ·) = some q := by
  simp only [spans, List.mem_filterMap, Option.map_eq_some_iff, Prod.mk.injEq]
  constructor
  · rintro ⟨a, ha, b, hb, rfl, rfl⟩
    exact ⟨ha, hb⟩
  · rintro ⟨hp, hq⟩
    exact ⟨p, hp, q, hq, rfl, rfl⟩

theorem shortest_mem {spans : List (Nat × Nat)} {s : Nat × Nat} (h : shortest spans = some s) :
    s ∈ spans := by
  induction spans generalizing s with
  | nil => cases h
  | cons t rest ih =>
    rw [shortest] at h
    cases hr : shortest rest with
    | none =>
      rw [hr] at h
      cases h
      exact List.mem_cons_self
    | some u =>
      rw [hr] at h
      simp only at h
      split at h <;> cases h
      · exact List.mem_cons_self
      · exact List.mem_cons_of_mem t (ih hr)

theorem shortest_eq_none {spans : List (Nat × Nat)} : shortest spans = none ↔ spans = [] := by
  cases spans with
  | nil => simp [shortest]
  | cons s rest =>
    rw [shortest]
    split
    · simp
    · split <;> simp

/-- A stretch of the history, from the delta at `p` to the one at `q`. -/
def stretch (all : List (Delta V)) (p q : Nat) : List (Delta V) := (all.drop p).take (q + 1 - p)

omit [DecidableEq V] in
theorem mem_of_mem_stretch {p q : Nat} (h : d ∈ stretch all p q) : d ∈ all :=
  List.mem_of_mem_drop (List.mem_of_mem_take h)

/-- That the delta at `p` is still kept and that a stretch from there to `q` leads from one value to
another. -/
structure Connects (l : Ledger V) (all : List (Delta V)) (source target : V) (p q : Nat) :
    Prop where
  kept : l.base ≤ p
  ordered : p ≤ q
  leaves : ∃ d, all[p]? = some d ∧ d.source = source
  reaches : ∃ d, all[q]? = some d ∧ d.target = target

theorem mem_get_leaving (h : l.Records initial all) {v : V} {p : Nat} :
    p ∈ Positions.get v l.leaving ↔ l.base ≤ p ∧ ∃ d, all[p]? = some d ∧ d.source = v := by
  rw [h.leaving, Positions.mem_get_ofDeltas, h.deltas]
  refine and_congr_right fun hp => ?_
  rw [List.getElem?_drop, Nat.add_sub_cancel' hp]

theorem mem_get_reaching (h : l.Records initial all) {v : V} {p : Nat} :
    p ∈ Positions.get v l.reaching ↔ l.base ≤ p ∧ ∃ d, all[p]? = some d ∧ d.target = v := by
  rw [h.reaching, Positions.mem_get_ofDeltas, h.deltas]
  refine and_congr_right fun hp => ?_
  rw [List.getElem?_drop, Nat.add_sub_cancel' hp]

theorem connects_of_mem_spans (h : l.Records initial all) {source target : V} {p q : Nat}
    (hs : (p, q) ∈ spans (Positions.get source l.leaving) (Positions.get target l.reaching)) :
    l.Connects all source target p q := by
  obtain ⟨hp, hq⟩ := mem_spans.mp hs
  obtain ⟨hkept, hleaves⟩ := (mem_get_leaving h).mp hp
  obtain ⟨-, hreaches⟩ := (mem_get_reaching h).mp (List.mem_of_find?_eq_some hq)
  exact ⟨hkept, by simpa using List.find?_some hq, hleaves, hreaches⟩

theorem exists_mem_spans (h : l.Records initial all) {source target : V} {p q : Nat}
    (hc : l.Connects all source target p q) :
    ∃ q, (p, q) ∈ spans (Positions.get source l.leaving) (Positions.get target l.reaching) := by
  have hp := (mem_get_leaving h).mpr ⟨hc.kept, hc.leaves⟩
  have hq := (mem_get_reaching h).mpr ⟨Nat.le_trans hc.kept hc.ordered, hc.reaches⟩
  have hsome : ((Positions.get target l.reaching).find? (p ≤ ·)).isSome :=
    List.find?_isSome.mpr ⟨q, hq, by simpa using hc.ordered⟩
  obtain ⟨q', hq'⟩ := Option.isSome_iff_exists.mp hsome
  exact ⟨q', mem_spans.mpr ⟨hp, hq'⟩⟩

/-- What a lookup that succeeds has checked and found. -/
theorem between_cases {source target : V} {ds : List (Delta V)}
    (hb : l.between source target = .ok ds) : l.knows source ∧ l.knows target ∧
      (source = target ∧ ds = [] ∨ source ≠ target ∧ ∃ p q,
        shortest (spans (Positions.get source l.leaving) (Positions.get target l.reaching)) =
          some (p, q) ∧ ds = (l.deltas.drop (p - l.base)).take (q - p + 1)) := by
  rw [between] at hb
  split at hb
  · cases hb
  · next hsource =>
    split at hb
    · cases hb
    · next htarget =>
      refine ⟨by simpa using hsource, by simpa using htarget, ?_⟩
      split at hb
      · next heq =>
        cases hb
        exact .inl ⟨heq, rfl⟩
      · next hne =>
        simp only at hb
        split at hb
        · cases hb
        · next p q hs =>
          cases hb
          exact .inr ⟨hne, p, q, hs, rfl⟩

/-- A lookup that succeeds answers nothing for equal values, and a stretch of what is kept for
others. -/
theorem between_eq_ok (h : l.Records initial all) {source target : V} {ds : List (Delta V)}
    (hb : l.between source target = .ok ds) :
    source = target ∧ ds = [] ∨
      ∃ p q, l.Connects all source target p q ∧ ds = stretch all p q := by
  obtain ⟨-, -, hequal | ⟨-, p, q, hs, rfl⟩⟩ := between_cases hb
  · exact .inl hequal
  · have hc := connects_of_mem_spans h (shortest_mem hs)
    refine .inr ⟨p, q, hc, ?_⟩
    rw [stretch, h.deltas, List.drop_drop, Nat.add_sub_cancel' hc.kept,
      Nat.sub_add_comm hc.ordered]

theorem Connects.linked (h : l.Records initial all) {source target : V} {p q : Nat}
    (hc : l.Connects all source target p q) : Delta.Linked source (stretch all p q) := by
  obtain ⟨d, hd, hsource⟩ := hc.leaves
  rw [h.linked.source_eq hd] at hsource
  have hlinked := h.linked
  rw [← List.take_append_drop p all, Delta.linked_append, hsource,
    ← List.take_append_drop (q + 1 - p) (all.drop p), Delta.linked_append] at hlinked
  exact hlinked.2.1

/-- What a lookup answers goes on from the given value, and has all been published. -/
theorem linked_of_between (h : l.Records initial all) {source target : V} {ds : List (Delta V)}
    (hb : l.between source target = .ok ds) :
    Delta.Linked source ds ∧ ∀ d, d ∈ ds → d ∈ all := by
  rcases between_eq_ok h hb with ⟨-, rfl⟩ | ⟨p, q, hc, rfl⟩
  · exact ⟨trivial, by simp⟩
  · exact ⟨hc.linked h, fun _ => mem_of_mem_stretch⟩

theorem Connects.finish (h : l.Records initial all) {source target : V} {p q : Nat}
    (hc : l.Connects all source target p q) :
    Delta.finish source (stretch all p q) = target := by
  obtain ⟨d, hd, hsource⟩ := hc.leaves
  obtain ⟨e, he, htarget⟩ := hc.reaches
  have hle : q + 1 = p + (q + 1 - p) := by
    have := hc.ordered
    omega
  have hsplit : all.take (q + 1) = all.take p ++ stretch all p q := by
    rw [stretch, ← List.take_add, ← hle]
  rw [← hsource, h.linked.source_eq hd, ← Delta.finish_append, ← hsplit,
    Delta.finish_take_succ he, htarget]

theorem finish_of_between (h : l.Records initial all) {source target : V} {ds : List (Delta V)}
    (hb : l.between source target = .ok ds) :
    Delta.finish source ds = target := by
  rcases between_eq_ok h hb with ⟨rfl, rfl⟩ | ⟨p, q, hc, rfl⟩
  · rfl
  · exact hc.finish h

/-- What a lookup answers is still kept. -/
theorem mem_of_between (h : l.Records initial all) {source target : V} {ds : List (Delta V)}
    (hb : l.between source target = .ok ds) (hd : d ∈ ds) : d ∈ l.deltas := by
  rcases between_eq_ok h hb with ⟨-, rfl⟩ | ⟨p, q, hc, rfl⟩
  · cases hd
  · rw [h.deltas]
    have hp : d ∈ all.drop p := List.mem_of_mem_take hd
    rw [← Nat.add_sub_cancel' hc.kept, ← List.drop_drop] at hp
    exact List.mem_of_mem_drop hp

/-- Where a lookup fails, it is for an unknown state. -/
theorem between_eq_error {source target : V} {e : Failure}
    (hb : l.between source target = .error e) : ∃ cause, e = .unknownState cause := by
  rw [between] at hb
  split at hb
  · cases hb
    exact ⟨_, rfl⟩
  · split at hb
    · cases hb
      exact ⟨_, rfl⟩
    · split at hb
      · cases hb
      · simp only at hb
        split at hb <;> cases hb
        exact ⟨_, rfl⟩

theorem exists_between {source target : V} (h : l.Records initial all) (hs : l.knows source)
    (ht : l.knows target) (hc : source = target ∨ ∃ p q, l.Connects all source target p q) :
    ∃ ds, l.between source target = .ok ds := by
  rw [between, hs, ht]
  simp only [Bool.not_true, Bool.false_eq_true, if_false]
  split
  · exact ⟨[], rfl⟩
  · next hne =>
    rcases hc with hc | ⟨p, q, hc⟩
    · exact (hne hc).elim
    · obtain ⟨q', hq'⟩ := exists_mem_spans h hc
      split
      · next hnone =>
        rw [shortest_eq_none.mp hnone] at hq'
        cases hq'
      · exact ⟨_, rfl⟩

theorem knows_head (l : Ledger V) : l.knows l.head := by
  simp [knows]

/-- The checkpoints that are known are those from the first delta that is kept on. -/
theorem knows_iff_checkpoint (h : l.Records initial all) (v : V) :
    l.knows v ↔ ∃ j, l.base ≤ j ∧ j ≤ all.length ∧ Delta.finish initial (all.take j) = v := by
  have hle : l.base ≤ all.length := h.base ▸ excess_le l.limit all.length
  rw [knows_iff h]
  constructor
  · rintro (rfl | ⟨d, hd, rfl⟩ | ⟨d, hd, rfl⟩)
    · exact ⟨all.length, hle, Nat.le_refl _, by rw [List.take_length, h.head]⟩
    · obtain ⟨p, hp⟩ := List.mem_iff_getElem?.mp hd
      rw [h.deltas, List.getElem?_drop] at hp
      have hlt := (List.getElem?_eq_some_iff.mp hp).1
      exact ⟨l.base + p, by omega, by omega, (h.linked.source_eq hp).symm⟩
    · obtain ⟨p, hp⟩ := List.mem_iff_getElem?.mp hd
      rw [h.deltas, List.getElem?_drop] at hp
      have hlt := (List.getElem?_eq_some_iff.mp hp).1
      exact ⟨l.base + p + 1, by omega, by omega, Delta.finish_take_succ hp⟩
  · rintro ⟨j, hj, hn, rfl⟩
    rcases Nat.lt_or_ge j all.length with hlt | hge
    · -- The checkpoint is where the next delta starts.
      have hget := List.getElem?_eq_getElem hlt
      refine .inr (.inl ⟨all[j], ?_, h.linked.source_eq hget⟩)
      rw [h.deltas]
      refine List.mem_iff_getElem?.mpr ⟨j - l.base, ?_⟩
      rw [List.getElem?_drop, Nat.add_sub_cancel' hj, hget]
    · have : j = all.length := by omega
      subst this
      exact .inl (by rw [List.take_length, h.head])

/-- Whatever is known leads to the head. -/
theorem exists_between_head_iff (h : l.Records initial all) (v : V) :
    (∃ ds, l.between v l.head = .ok ds) ↔ l.knows v := by
  constructor
  · rintro ⟨ds, hb⟩
    exact (between_cases hb).1
  · intro hk
    refine exists_between h hk l.knows_head ?_
    obtain ⟨j, hj, hn, hv⟩ := (knows_iff_checkpoint h v).mp hk
    rcases Nat.lt_or_ge j all.length with hlt | hge
    · have hget := List.getElem?_eq_getElem hlt
      have hlast : all.length - 1 < all.length := by omega
      have hfinish : Delta.finish initial (all.take (all.length - 1 + 1)) = _ :=
        Delta.finish_take_succ (List.getElem?_eq_getElem hlast)
      refine .inr ⟨j, all.length - 1, hj, by omega,
        ⟨_, hget, (h.linked.source_eq hget).trans hv⟩, _, List.getElem?_eq_getElem hlast, ?_⟩
      rw [← hfinish, h.head, List.take_of_length_le (by omega)]
    · have : j = all.length := by omega
      subst this
      rw [List.take_length, ← h.head] at hv
      exact .inl hv.symm

end Ledger
end Revocation
