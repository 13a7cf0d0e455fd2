import Mathlib.Algebra.BigOperators.Ring.Finset
import Mathlib.Data.ZMod.Units
import Mathlib.RingTheory.Coprime.Lemmas
import Revocation.Element
import Revocation.IndexSet

/-!
What the operations of a modulus are on residues, and the accumulator value of a set of indices: the
product of the entries of its members. Main statements: `invert?_eq_some`, which says when and how
an element is inverted, and `weight_union` and `weight_diff`, by which entries go in and out.
-/
namespace Revocation

namespace Modulus

variable {m : Modulus} {a b : Int}

def IsResidue (m : Modulus) (a : Int) : Prop := 0 ≤ a ∧ a < m.value

theorem isResidue_combine (m : Modulus) (a b : Int) : m.IsResidue (m.combine a b) :=
  ⟨m.combine_nonneg a b, m.combine_lt a b⟩

theorem isResidue_emod (m : Modulus) (a : Int) : m.IsResidue (a % m.value) := by
  have := m.value_pos
  exact ⟨Int.emod_nonneg a (by omega), Int.emod_lt_of_pos a (by omega)⟩

theorem isResidue_identity (m : Modulus) : m.IsResidue identity := by
  have h := m.three_le
  rw [IsResidue, identity]
  omega

theorem cast_combine (m : Modulus) (a b : Int) :
    ((m.combine a b : Int) : ZMod m.value) = a * b := by
  rw [combine, ZMod.intCast_mod, Int.cast_mul]

/-- Residues that are equal modulo `m` are equal. -/
theorem IsResidue.eq_of_cast (ha : m.IsResidue a) (hb : m.IsResidue b)
    (h : (a : ZMod m.value) = b) : a = b := by
  have hmod := (ZMod.intCast_eq_intCast_iff a b m.value).mp h
  rwa [Int.ModEq, Int.emod_eq_of_lt ha.1 ha.2, Int.emod_eq_of_lt hb.1 hb.2] at hmod

theorem isUnit_cast_iff : IsUnit (a : ZMod m.value) ↔ IsCoprime a m.value := by
  rw [ZMod.coe_int_isUnit_iff_isCoprime, isCoprime_comm]

theorem toNat_emod (m : Modulus) (a : Int) : (((a % m.value).toNat : Nat) : Int) = a % m.value := by
  have := m.value_pos
  exact Int.toNat_of_nonneg (Int.emod_nonneg a (by omega))

/-- What is inverted is what has no factor in common with the modulus. -/
theorem invert?_eq_some (m : Modulus) (a : Int) :
    (∃ b, m.invert? a = some b) ↔ IsCoprime a m.value := by
  have hg : Nat.gcd (a % m.value).toNat m.value = Int.gcd a m.value := by
    rw [← Int.gcd_natCast_natCast, toNat_emod, Int.gcd_emod]
  rw [Int.isCoprime_iff_gcd_eq_one, ← hg]
  simp only [invert?]
  split <;> simp_all

theorem mul_invert? (h : m.invert? a = some b) : (a : ZMod m.value) * b = 1 := by
  rw [invert?] at h
  split at h
  · next hg =>
    cases h
    have hb := bezout_eq (a % m.value).toNat m.value
    rw [hg, toNat_emod] at hb
    have hc := congrArg (Int.cast : Int → ZMod m.value) hb
    simpa using hc
  · cases h

theorem inverse_eq_ok : m.inverse a = .ok b ↔ m.invert? a = some b := by
  rw [inverse]
  split <;> simp_all

theorem inverse_eq_error {a : Int} {e : Failure} :
    m.inverse a = .error e ↔ ¬ IsCoprime a m.value ∧ e = .notInvertible := by
  rw [← m.invert?_eq_some, inverse]
  cases m.invert? a <;> simp [eq_comm]

theorem mapM_invert?_cons {b : Int} {bs cs : List Int} :
    (b :: bs).mapM m.invert? = some cs ↔
      ∃ c rest, m.invert? b = some c ∧ bs.mapM m.invert? = some rest ∧ cs = c :: rest := by
  rw [List.mapM_cons]
  cases m.invert? b <;> cases bs.mapM m.invert? <;> simp [eq_comm]

theorem exists_inverses_iff {bs : List Int} :
    (∃ cs, bs.mapM m.invert? = some cs) ↔ ∀ b, b ∈ bs → IsCoprime b m.value := by
  induction bs with
  | nil => simp
  | cons b bs ih =>
    rw [List.forall_mem_cons, ← ih, ← invert?_eq_some]
    simp only [mapM_invert?_cons]
    constructor
    · rintro ⟨-, c, rest, hc, hrest, -⟩
      exact ⟨⟨c, hc⟩, rest, hrest⟩
    · rintro ⟨⟨c, hc⟩, rest, hrest⟩
      exact ⟨c :: rest, c, rest, hc, hrest, rfl⟩

end Modulus

namespace IndexSet

variable {s t : IndexSet} {i : Int}

theorem nodup (s : IndexSet) : s.toList.Nodup := s.ascending.imp fun h => ne_of_lt h

def toFinset (s : IndexSet) : Finset Int :=
  ⟨s.toList, Multiset.coe_nodup.mpr (s.ascending.imp fun h => ne_of_lt h)⟩

@[simp] theorem mem_toFinset : i ∈ s.toFinset ↔ i ∈ s := Iff.rfl

theorem toFinset_union (s t : IndexSet) : (s.union t).toFinset = s.toFinset ∪ t.toFinset := by
  ext i
  simp

theorem toFinset_diff (s t : IndexSet) : (s.diff t).toFinset = s.toFinset \ t.toFinset := by
  ext i
  simp

theorem toFinset_erase (s : IndexSet) (i : Int) : (s.erase i).toFinset = s.toFinset.erase i := by
  ext k
  simp [and_comm]

theorem prod_map_toList {M : Type} [CommMonoid M] (s : IndexSet) (f : Int → M) :
    (s.toList.map f).prod = ∏ i ∈ s.toFinset, f i := rfl

end IndexSet

namespace Modulus

variable (m : Modulus) (entry : Int → Int)

/-- The accumulator value of a set of indices, given the entries of all indices. -/
def accumulated (s : IndexSet) : Int := (s.toList.map entry).prod % m.value

/-- The product of the entries of a set, modulo `m`. -/
def weight (s : IndexSet) : ZMod m.value := ∏ i ∈ s.toFinset, (entry i : ZMod m.value)

theorem isResidue_accumulated (s : IndexSet) : m.IsResidue (m.accumulated entry s) :=
  m.isResidue_emod _

theorem cast_accumulated (s : IndexSet) :
    ((m.accumulated entry s : Int) : ZMod m.value) = m.weight entry s := by
  rw [accumulated, ZMod.intCast_mod, IndexSet.prod_map_toList, Int.cast_prod, weight]

theorem accumulated_empty : m.accumulated entry ∅ = identity :=
  Int.emod_eq_of_lt m.isResidue_identity.1 m.isResidue_identity.2

variable {m entry} {s t : IndexSet}

theorem weight_union (h : ∀ i, i ∈ t → ¬ i ∈ s) :
    m.weight entry (s.union t) = m.weight entry s * m.weight entry t := by
  rw [weight, IndexSet.toFinset_union, Finset.prod_union]
  · rfl
  · rw [Finset.disjoint_right]
    exact h

theorem weight_diff (h : ∀ i, i ∈ t → i ∈ s) :
    m.weight entry (s.diff t) * m.weight entry t = m.weight entry s := by
  rw [weight, weight, weight, IndexSet.toFinset_diff]
  exact Finset.prod_sdiff h

theorem weight_erase {i : Int} (h : i ∈ s) :
    m.weight entry (s.erase i) * (entry i : ZMod m.value) = m.weight entry s := by
  rw [weight, weight, IndexSet.toFinset_erase]
  exact Finset.prod_erase_mul s.toFinset _ h

/-- If every entry of a set can be inverted, so can their product. -/
theorem isUnit_weight (h : ∀ i, i ∈ s → IsCoprime (entry i) m.value) :
    IsUnit (m.weight entry s) :=
  IsUnit.prod_iff.mpr fun i hi => isUnit_cast_iff.mpr (h i hi)

/-- An index and all others of a set. -/
theorem combine_accumulated_erase {i : Int} (h : i ∈ s) :
    m.combine (m.accumulated entry (s.erase i)) (entry i) = m.accumulated entry s := by
  refine (m.isResidue_combine _ _).eq_of_cast (m.isResidue_accumulated entry s) ?_
  rw [cast_combine, cast_accumulated, cast_accumulated, weight_erase h]

end Modulus
end Revocation
