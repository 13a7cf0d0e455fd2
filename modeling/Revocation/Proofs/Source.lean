import Revocation.Proofs.Residue
import Revocation.Proofs.Session
import Revocation.Tails

/-!
What a source of tails is relied on for, and what comes out when the entries of some indices are
combined into an element or out of it. The values are given by two functions on entries, `multiply`
and `divide?`; a source only adds that a fetch may fail.
-/
namespace Revocation

namespace Modulus

variable (m : Modulus) (a : Int)

def multiply (bs : List Int) : Int := bs.foldl m.combine a

def divide? (bs : List Int) : Option Int :=
  bs.foldlM (fun a b => (m.invert? b).map (m.combine a)) a

/-- The element that there is, or the failure where there is none for want of an inverse. -/
def orNotInvertible : Option Int → Except Failure Int
  | some a => .ok a
  | none => .error .notInvertible

theorem orNotInvertible_bind (o : Option Int) (f : Int → Option Int) :
    orNotInvertible (o.bind f) = orNotInvertible o >>= fun a => orNotInvertible (f a) := by
  cases o <;> rfl

theorem inverse_eq_orNotInvertible (m : Modulus) (a : Int) :
    m.inverse a = orNotInvertible (m.invert? a) := by
  rw [inverse]
  cases m.invert? a <;> rfl

variable {m a} {b : Int} {bs : List Int}

theorem cast_multiply (a : Int) (bs : List Int) :
    ((m.multiply a bs : Int) : ZMod m.value) =
      a * (bs.map (Int.cast : Int → ZMod m.value)).prod := by
  induction bs generalizing a with
  | nil => simp [multiply]
  | cons b bs ih =>
    have h := ih (m.combine a b)
    rw [cast_combine] at h
    rw [multiply, List.foldl_cons, ← multiply, h, List.map_cons, List.prod_cons, mul_assoc]

theorem isResidue_multiply (h : m.IsResidue a) (bs : List Int) :
    m.IsResidue (m.multiply a bs) := by
  induction bs generalizing a with
  | nil => exact h
  | cons b bs ih => exact ih (m.isResidue_combine a b)

theorem multiply_concat (a b : Int) (bs : List Int) :
    m.multiply a (bs ++ [b]) = m.combine (m.multiply a bs) b := by
  rw [multiply, List.foldl_append]
  rfl

/-- Once anything has been combined, what is left is a residue. -/
theorem multiply_eq_emod (a : Int) {bs : List Int} (h : bs ≠ []) :
    m.multiply a bs = a * bs.prod % m.value := by
  have hresidue : m.IsResidue (m.multiply a bs) := by
    cases bs with
    | nil => exact (h rfl).elim
    | cons b bs => exact isResidue_multiply (m.isResidue_combine a b) bs
  refine hresidue.eq_of_cast (m.isResidue_emod _) ?_
  rw [cast_multiply, ZMod.intCast_mod, Int.cast_mul, Int.cast_list_prod]

theorem multiply_identity_eq_emod (bs : List Int) :
    m.multiply identity bs = bs.prod % m.value := by
  refine (isResidue_multiply m.isResidue_identity bs).eq_of_cast (m.isResidue_emod _) ?_
  rw [cast_multiply, ZMod.intCast_mod, identity, Int.cast_one, one_mul, Int.cast_list_prod]

theorem divide?_cons :
    m.divide? a (b :: bs) = (m.invert? b).bind fun c => m.divide? (m.combine a c) bs := by
  rw [divide?, List.foldlM_cons]
  cases m.invert? b <;> rfl

/-- Division by several elements is multiplication by their inverses. -/
theorem divide?_eq_inverses (a : Int) (bs : List Int) :
    m.divide? a bs = (bs.mapM m.invert?).map (m.multiply a) := by
  induction bs generalizing a with
  | nil => rfl
  | cons b bs ih =>
    rw [divide?_cons, List.mapM_cons]
    cases m.invert? b with
    | none => rfl
    | some c =>
      rw [Option.bind_some, ih]
      cases bs.mapM m.invert? <;> rfl

/-- A quotient by several elements exists if each of them can be inverted. -/
theorem exists_divide?_iff (a : Int) (bs : List Int) :
    (∃ c, m.divide? a bs = some c) ↔ ∀ b, b ∈ bs → IsCoprime b m.value := by
  simp [divide?_eq_inverses, ← exists_inverses_iff]

theorem mul_divide? {c : Int} (h : m.divide? a bs = some c) :
    (c : ZMod m.value) * (bs.map (Int.cast : Int → ZMod m.value)).prod = a := by
  induction bs generalizing a with
  | nil =>
    cases h
    simp
  | cons b bs ih =>
    rw [divide?_cons] at h
    obtain ⟨d, hd, h⟩ := Option.bind_eq_some_iff.mp h
    have hc := ih h
    rw [cast_combine] at hc
    calc (c : ZMod m.value) * ((b :: bs).map (Int.cast : Int → ZMod m.value)).prod
        = c * (bs.map (Int.cast : Int → ZMod m.value)).prod * b := by
          rw [List.map_cons, List.prod_cons, mul_comm (b : ZMod m.value), mul_assoc]
      _ = a * (b * d) := by rw [hc, mul_assoc, mul_comm (d : ZMod m.value)]
      _ = a := by rw [mul_invert? hd, mul_one]

theorem prod_cast_entries (entry : Int → Int) (s : IndexSet) :
    ((s.toList.map entry).map (Int.cast : Int → ZMod m.value)).prod = m.weight entry s := by
  rw [List.map_map]
  rfl

theorem isResidue_divide? {c : Int} (ha : m.IsResidue a) (h : m.divide? a bs = some c) :
    m.IsResidue c := by
  induction bs generalizing a with
  | nil =>
    cases h
    exact ha
  | cons b bs ih =>
    rw [divide?_cons] at h
    obtain ⟨d, -, h⟩ := Option.bind_eq_some_iff.mp h
    exact ih (m.isResidue_combine a d) h

/-- Entries of new indices go in. -/
theorem multiply_accumulated {entry : Int → Int} {s t : IndexSet} (h : ∀ i, i ∈ t → ¬ i ∈ s) :
    m.multiply (m.accumulated entry s) (t.toList.map entry) = m.accumulated entry (s.union t) := by
  refine (isResidue_multiply (m.isResidue_accumulated entry s) _).eq_of_cast
    (m.isResidue_accumulated entry _) ?_
  rw [cast_multiply, cast_accumulated, cast_accumulated, prod_cast_entries, weight_union h]

theorem multiply_identity (entry : Int → Int) (s : IndexSet) :
    m.multiply identity (s.toList.map entry) = m.accumulated entry s := by
  have hunion : (∅ : IndexSet).union s = s := IndexSet.ext_mem fun i => by simp
  rw [← m.accumulated_empty entry, multiply_accumulated (by simp), hunion]

/-- Entries of old indices come out, if they can be inverted. -/
theorem eq_accumulated_of_divide? {entry : Int → Int} {s t : IndexSet} {c : Int}
    (h : ∀ i, i ∈ t → i ∈ s)
    (hc : m.divide? (m.accumulated entry s) (t.toList.map entry) = some c) :
    c = m.accumulated entry (s.diff t) := by
  have hunits : ∀ b, b ∈ t.toList.map entry → IsCoprime b m.value :=
    (exists_divide?_iff _ _).mp ⟨c, hc⟩
  have hunit : IsUnit (m.weight entry t) :=
    isUnit_weight fun i hi => hunits (entry i) (List.mem_map_of_mem hi)
  refine (isResidue_divide? (m.isResidue_accumulated entry s) hc).eq_of_cast
    (m.isResidue_accumulated entry _) (hunit.mul_right_cancel ?_)
  have hq := mul_divide? hc
  rw [prod_cast_entries, cast_accumulated] at hq
  rw [hq, cast_accumulated, weight_diff h]

theorem divide?_accumulated {entry : Int → Int} {s t : IndexSet} (h : ∀ i, i ∈ t → i ∈ s)
    (hunits : ∀ i, i ∈ t → IsCoprime (entry i) m.value) :
    m.divide? (m.accumulated entry s) (t.toList.map entry) =
      some (m.accumulated entry (s.diff t)) := by
  have hmap : ∀ b, b ∈ t.toList.map entry → IsCoprime b m.value := by
    intro b hb
    obtain ⟨i, hi, rfl⟩ := List.mem_map.mp hb
    exact hunits i hi
  obtain ⟨c, hc⟩ := (exists_divide?_iff (m.accumulated entry s) _).mpr hmap
  rw [hc, eq_accumulated_of_divide? h hc]

end Modulus

namespace TailsSource

variable {σ : Type} {tails : TailsSource σ} {entry : Int → Int} {capacity : Nat}

/-- Whenever the source answers for an index of the registry, it answers with its entry. -/
def Consistent (tails : TailsSource σ) (entry : Int → Int) (capacity : Nat) : Prop :=
  ∀ i, i ∈ IndexSet.upTo capacity → ∀ s a t, tails i s = .ok a t → a = entry i

/-- Whenever the source answers for this one index, it answers with this entry. -/
def Gives (tails : TailsSource σ) (i a : Int) : Prop := ∀ s b t, tails i s = .ok b t → b = a

theorem Consistent.gives (h : tails.Consistent entry capacity) {i : Int}
    (hi : i ∈ IndexSet.upTo capacity) : tails.Gives i (entry i) :=
  h i hi

/-- In every good state the source answers for each index of the registry with its entry. -/
def Answers (tails : TailsSource σ) (entry : Int → Int) (capacity : Nat) (good : σ → Prop) : Prop :=
  ∀ i, i ∈ IndexSet.upTo capacity → (tails i).Yields good (entry i)

theorem Answers.consistent (h : tails.Answers entry capacity fun _ => True) :
    tails.Consistent entry capacity := by
  intro i hi s a t hs
  obtain ⟨u, hu, -⟩ := h i hi s trivial
  rw [hs] at hu
  cases hu
  rfl

/-- The entries in a list, the first one at index 1. -/
def entryIn (entries : List Int) (index : Int) : Int := entries.getD (index - 1).toNat 0

theorem entryAt_eq_ok {entries : List Int} {i : Int} (hi : i ∈ IndexSet.upTo entries.length) :
    entryAt entries i = .ok (entryIn entries i) := by
  obtain ⟨h1, h2⟩ := IndexSet.mem_upTo.mp hi
  have hlt : (i - 1).toNat < entries.length := by omega
  have hnot : ¬ i < 1 := by omega
  have hget := List.getElem?_eq_getElem hlt
  simp only [entryAt, entryIn, if_neg hnot, hget, List.getD_eq_getElem?_getD, Option.getD_some]

theorem ofList_answers (entries : List Int) (good : σ → Prop) :
    (ofList entries).Answers (entryIn entries) entries.length good :=
  fun _ hi => Session.yields_ofExcept (entryAt_eq_ok hi)

/-- Entries that are withheld do not make a source inconsistent. -/
theorem watched_consistent (entries : List Int) :
    (watched entries).Consistent (entryIn entries) entries.length := by
  intro i hi w a w' h
  rw [watched] at h
  split at h
  · cases h
  · rw [ofList, entryAt_eq_ok hi, Session.ofExcept_ok] at h
    cases h
    rfl

variable {m : Modulus} {a b : Int} {is : List Int} {s t : σ}

theorem including_cons (a i : Int) (is : List Int) :
    tails.including m a (i :: is) = tails i >>= fun b => tails.including m (m.combine a b) is := by
  rw [including, List.foldlM_cons, bind_assoc]
  simp only [pure_bind]

theorem excluding_cons (a i : Int) (is : List Int) :
    tails.excluding m a (i :: is) = tails i >>= fun b => Session.ofExcept (m.inverse b) >>= fun c =>
      tails.excluding m (m.combine a c) is := by
  rw [excluding, List.foldlM_cons, bind_assoc]
  simp only [bind_assoc, pure_bind]

theorem inner_including {ρ : Type} (tails : TailsSource σ) (m : Modulus) (a : Int) (is : List Int) :
    (inner (ρ := ρ) tails).including m a is = Session.inner (tails.including m a is) := by
  rw [including, including, Session.inner_foldlM]
  simp only [Session.inner_bind]
  rfl

theorem inner_excluding {ρ : Type} (tails : TailsSource σ) (m : Modulus) (a : Int) (is : List Int) :
    (inner (ρ := ρ) tails).excluding m a is = Session.inner (tails.excluding m a is) := by
  rw [excluding, excluding, Session.inner_foldlM]
  simp only [Session.inner_bind, Session.inner_ofExcept]
  rfl

/-- What each fetch keeps of the state is kept as entries go in. -/
theorem including_keeps {P : σ → Prop}
    (hP : ∀ i, i ∈ is → ∀ s a t, P s → tails i s = .ok a t → P t) (hs : P s)
    (h : tails.including m a is s = .ok b t) : P t := by
  refine Session.foldlM_keeps_state (fun i hi a s b t hs hstep => ?_) hs h
  obtain ⟨e, u, hfetch, hlast⟩ := Session.bind_eq_ok.mp hstep
  cases hlast
  exact hP i hi s e _ hs hfetch

theorem excluding_keeps {P : σ → Prop}
    (hP : ∀ i, i ∈ is → ∀ s a t, P s → tails i s = .ok a t → P t) (hs : P s)
    (h : tails.excluding m a is s = .ok b t) : P t := by
  refine Session.foldlM_keeps_state (fun i hi a s b t hs hstep => ?_) hs h
  obtain ⟨e, u, hfetch, hlast⟩ := Session.bind_eq_ok.mp hstep
  obtain ⟨d, u', hinverse, hlast⟩ := Session.bind_eq_ok.mp hlast
  cases hlast
  cases hd : m.inverse e <;> rw [hd] at hinverse <;> cases hinverse
  exact hP i hi s e _ hs hfetch

theorem including_eq_ok (hc : tails.Consistent entry capacity)
    (his : ∀ i, i ∈ is → i ∈ IndexSet.upTo capacity) (h : tails.including m a is s = .ok b t) :
    b = m.multiply a (is.map entry) := by
  induction is generalizing a s with
  | nil =>
    cases h
    rfl
  | cons i is ih =>
    obtain ⟨hi, his⟩ := List.forall_mem_cons.mp his
    rw [including_cons] at h
    obtain ⟨c, u, hf, h⟩ := Session.bind_eq_ok.mp h
    rw [hc i hi s c u hf] at h
    exact ih his h

theorem including_eq_error {e : Failure} (h : tails.including m a is s = .error e t) :
    ∃ i u, tails i u = .error e t := by
  induction is generalizing a s with
  | nil => cases h
  | cons i is ih =>
    rw [including_cons] at h
    rcases Session.bind_eq_error.mp h with h | ⟨b, u, -, h⟩
    · exact ⟨i, s, h⟩
    · exact ih h

theorem excluding_eq_ok (hc : tails.Consistent entry capacity)
    (his : ∀ i, i ∈ is → i ∈ IndexSet.upTo capacity) (h : tails.excluding m a is s = .ok b t) :
    m.divide? a (is.map entry) = some b := by
  induction is generalizing a s with
  | nil =>
    cases h
    rfl
  | cons i is ih =>
    obtain ⟨hi, his⟩ := List.forall_mem_cons.mp his
    rw [excluding_cons] at h
    obtain ⟨c, u, hf, h⟩ := Session.bind_eq_ok.mp h
    rw [hc i hi s c u hf] at h
    cases hv : m.inverse (entry i) with
    | error e =>
      rw [hv, Session.bind_of_error (Session.ofExcept_error e u)] at h
      cases h
    | ok d =>
      rw [hv, Session.bind_of_ok (Session.ofExcept_ok d u)] at h
      rw [List.map_cons, Modulus.divide?_cons, Modulus.inverse_eq_ok.mp hv]
      exact ih his h

/-- Entries that go in leave a residue, whatever they are. -/
theorem isResidue_including (ha : m.IsResidue a) (h : tails.including m a is s = .ok b t) :
    m.IsResidue b := by
  refine Session.foldlM_keeps (fun a i s b t _ hstep => ?_) ha h
  obtain ⟨e, u, -, hlast⟩ := Session.bind_eq_ok.mp hstep
  cases hlast
  exact m.isResidue_combine a e

theorem isResidue_excluding (ha : m.IsResidue a) (h : tails.excluding m a is s = .ok b t) :
    m.IsResidue b := by
  refine Session.foldlM_keeps (fun a i s b t _ hstep => ?_) ha h
  obtain ⟨e, u, -, hinverse⟩ := Session.bind_eq_ok.mp hstep
  obtain ⟨e', u', -, hlast⟩ := Session.bind_eq_ok.mp hinverse
  cases hlast
  exact m.isResidue_combine a e'

variable {good : σ → Prop}

theorem including_yields (his : ∀ i, i ∈ is → (tails i).Yields good (entry i)) :
    (tails.including m a is).Yields good (m.multiply a (is.map entry)) := by
  induction is generalizing a with
  | nil => exact Session.yields_pure a
  | cons i is ih =>
    obtain ⟨hi, his⟩ := List.forall_mem_cons.mp his
    rw [including_cons]
    exact hi.bind (ih his)

/-- Entries come out one by one, up to the first one that has no inverse. -/
theorem excluding_settles (his : ∀ i, i ∈ is → (tails i).Yields good (entry i)) :
    (tails.excluding m a is).Settles good
      (Modulus.orNotInvertible (m.divide? a (is.map entry))) := by
  induction is generalizing a with
  | nil => exact Session.settles_ok_iff.mpr (Session.yields_pure a)
  | cons i is ih =>
    obtain ⟨hi, his⟩ := List.forall_mem_cons.mp his
    rw [excluding_cons, List.map_cons, Modulus.divide?_cons, Modulus.orNotInvertible_bind]
    refine hi.bind_settles ?_
    rw [← Modulus.inverse_eq_orNotInvertible]
    exact (Session.settles_ofExcept _).bind fun c _ => ih his

end TailsSource
end Revocation
