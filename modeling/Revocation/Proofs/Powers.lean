import Revocation.Proofs.Source
import Revocation.Proofs.Wire

/-!
Inverses and powers, with exponents of either sign. An inverse is what an element combines to the
identity with; repeated squaring comes to the same residue as combining copies one by one, and where
an inverse exists exponents add up as in the group of units modulo `m`. Main statement:
`laws_of_modulus`.
-/
namespace Revocation.Modulus

variable {m : Modulus} {a b x y j k : Int} {e : Failure}

theorem product_eq_emod (as : List Int) : m.product as = as.prod % m.value :=
  multiply_identity_eq_emod as

theorem product_perm {as bs : List Int} (h : as.Perm bs) : m.product as = m.product bs := by
  rw [product_eq_emod, product_eq_emod, h.prod_eq]

/-! Inverses. -/

theorem combine_eq_identity_iff : m.combine a b = identity ↔ (a : ZMod m.value) * b = 1 := by
  rw [← cast_combine]
  constructor
  · intro h
    rw [h, identity, Int.cast_one]
  · intro h
    refine (m.isResidue_combine a b).eq_of_cast m.isResidue_identity ?_
    rw [h, identity, Int.cast_one]

theorem isResidue_inverse (h : m.inverse a = .ok b) : m.IsResidue b := by
  have hb := inverse_eq_ok.mp h
  rw [invert?] at hb
  split at hb <;> cases hb
  exact m.isResidue_emod _

theorem mul_inverse (h : m.inverse a = .ok b) : (a : ZMod m.value) * b = 1 :=
  mul_invert? (inverse_eq_ok.mp h)

theorem exists_inverse_iff : (∃ b, m.inverse a = .ok b) ↔ IsCoprime a m.value := by
  simp only [inverse_eq_ok, invert?_eq_some]

/-- Zero combines to zero, so it is the inverse of nothing. -/
theorem isElement_inverse (h : m.inverse a = .ok b) : m.IsElement b := by
  have hb := isResidue_inverse h
  have hne : b ≠ 0 := by
    intro hzero
    have hone := combine_eq_identity_iff.mpr (mul_inverse h)
    simp [hzero, combine, identity] at hone
  exact ⟨lt_of_le_of_ne hb.1 hne.symm, hb.2⟩

theorem inverse_eq_ok_iff :
    m.inverse a = .ok b ↔ m.IsElement b ∧ m.combine a b = identity := by
  constructor
  · intro h
    exact ⟨isElement_inverse h, combine_eq_identity_iff.mpr (mul_inverse h)⟩
  · intro ⟨hb, h⟩
    have hab := combine_eq_identity_iff.mp h
    obtain ⟨c, hc⟩ := exists_inverse_iff.mpr (isUnit_cast_iff.mp (IsUnit.of_mul_eq_one _ hab))
    have hac := mul_inverse hc
    have hcb : (c : ZMod m.value) = b := by
      calc (c : ZMod m.value) = c * (a * b) := by rw [hab, mul_one]
        _ = a * c * b := by ring
        _ = b := by rw [hac, one_mul]
    rw [hc, (isResidue_inverse hc).eq_of_cast ⟨hb.1.le, hb.2⟩ hcb]

/-! Powers. -/

theorem cast_power (a : Int) (k : Nat) : ((m.power a k : Int) : ZMod m.value) = a ^ k := by
  -- The recursion halves the exponent; an odd one leaves a single factor over.
  induction k using Nat.strongRecOn with
  | ind k ih =>
    rw [power]
    by_cases hzero : k = 0
    · simp [hzero, identity]
    · have hhalf := ih (k / 2) (by omega)
      by_cases heven : k % 2 = 0
      · have hk : k / 2 + k / 2 = k := by omega
        simp only [if_neg hzero, if_pos heven, cast_combine, hhalf, ← pow_add, hk]
      · have hk : k / 2 + k / 2 + 1 = k := by omega
        simp only [if_neg hzero, if_neg heven, cast_combine, hhalf, ← pow_add, ← pow_succ, hk]

theorem isResidue_power (a : Int) (k : Nat) : m.IsResidue (m.power a k) := by
  rw [power]
  by_cases hzero : k = 0
  · simpa only [if_pos hzero] using m.isResidue_identity
  · by_cases heven : k % 2 = 0
    · simpa only [if_neg hzero, if_pos heven] using m.isResidue_combine _ _
    · simpa only [if_neg hzero, if_neg heven] using m.isResidue_combine _ _

theorem power_eq_emod (a : Int) (k : Nat) : m.power a k = a ^ k % m.value := by
  refine (isResidue_power a k).eq_of_cast (m.isResidue_emod _) ?_
  rw [cast_power, ZMod.intCast_mod, Int.cast_pow]

theorem power_eq_product (a : Int) (k : Nat) : m.power a k = m.product (List.replicate k a) := by
  rw [product_eq_emod, List.prod_replicate, power_eq_emod]

theorem power_add (a : Int) (j k : Nat) :
    m.power a (j + k) = m.combine (m.power a j) (m.power a k) := by
  refine (isResidue_power a _).eq_of_cast (m.isResidue_combine _ _) ?_
  rw [cast_combine, cast_power, cast_power, cast_power, pow_add]

theorem exponentiate_of_nonneg (hk : 0 ≤ k) : m.exponentiate a k = .ok (m.power a k.toNat) := by
  simp [exponentiate, exponentiate?, hk]

theorem exponentiate_of_neg (hk : k < 0) :
    m.exponentiate a k = m.inverse a >>= fun b => m.exponentiate b (-k) := by
  have hneg : 0 ≤ -k := by omega
  have hnot : ¬ 0 ≤ k := by omega
  simp only [exponentiate_of_nonneg hneg]
  rw [exponentiate, exponentiate?, if_neg hnot, inverse]
  cases m.invert? a <;> rfl

theorem exponentiate_eq_error :
    m.exponentiate a k = .error e ↔ k < 0 ∧ ¬ IsCoprime a m.value ∧ e = .notInvertible := by
  by_cases hk : 0 ≤ k
  · simp [exponentiate_of_nonneg hk, hk]
  · have hneg : 0 ≤ -k := by omega
    rw [exponentiate_of_neg (not_le.mp hk), ← inverse_eq_error]
    cases m.inverse a <;> simp [exponentiate_of_nonneg hneg, not_le.mp hk, bind, Except.bind]

theorem isCoprime_of_exponentiate (h : m.exponentiate a k = .ok x) (hk : k < 0) :
    IsCoprime a m.value := by
  by_contra hnot
  rw [exponentiate_eq_error.mpr ⟨hk, hnot, rfl⟩] at h
  cases h

section

variable {u : (ZMod m.value)ˣ} (hu : (u : ZMod m.value) = a)
include hu

theorem exists_exponentiate_of_unit (k : Int) : ∃ p, m.exponentiate a k = .ok p ∧ m.IsResidue p ∧
    (p : ZMod m.value) = ((u ^ k : (ZMod m.value)ˣ) : ZMod m.value) := by
  by_cases hk : 0 ≤ k
  · obtain ⟨n, rfl⟩ := Int.eq_ofNat_of_zero_le hk
    refine ⟨m.power a n, exponentiate_of_nonneg hk, isResidue_power a n, ?_⟩
    rw [cast_power, ← hu, zpow_natCast, Units.val_pow_eq_pow_val]
  · obtain ⟨n, hn⟩ := Int.eq_ofNat_of_zero_le (show 0 ≤ -k by omega)
    obtain ⟨b, hb⟩ := exists_inverse_iff.mpr (isUnit_cast_iff.mp (hu ▸ u.isUnit))
    have hinv : (b : ZMod m.value) = ((u⁻¹ : (ZMod m.value)ˣ) : ZMod m.value) := by
      rw [← Units.mul_right_inj u, Units.mul_inv, hu]
      exact mul_inverse hb
    refine ⟨m.power b n, ?_, isResidue_power b n, ?_⟩
    · rw [exponentiate_of_neg (not_le.mp hk), hb, hn]
      exact exponentiate_of_nonneg (Int.natCast_nonneg n)
    · rw [cast_power, hinv, ← neg_neg k, hn, zpow_neg, zpow_natCast, ← inv_pow,
        Units.val_pow_eq_pow_val]

/-- Powers of an element that has an inverse are those in the group of units. -/
theorem exponentiate_eq_ok_of_unit : m.exponentiate a k = .ok x ↔
    m.IsResidue x ∧ (x : ZMod m.value) = ((u ^ k : (ZMod m.value)ˣ) : ZMod m.value) := by
  obtain ⟨p, hp, hresidue, hcast⟩ := exists_exponentiate_of_unit hu k
  rw [hp]
  constructor
  · intro h
    cases h
    exact ⟨hresidue, hcast⟩
  · intro ⟨hx, h⟩
    rw [hresidue.eq_of_cast hx (hcast.trans h.symm)]

end

/-- Exponents add up wherever both powers exist. -/
theorem exponentiate_add (hj : m.exponentiate a j = .ok x) (hk : m.exponentiate a k = .ok y) :
    m.exponentiate a (j + k) = .ok (m.combine x y) := by
  by_cases hnonneg : 0 ≤ j ∧ 0 ≤ k
  · rw [exponentiate_of_nonneg hnonneg.1] at hj
    rw [exponentiate_of_nonneg hnonneg.2] at hk
    cases hj
    cases hk
    rw [exponentiate_of_nonneg (by omega), Int.toNat_add hnonneg.1 hnonneg.2, power_add]
  · have hcoprime : IsCoprime a m.value := by
      by_cases hneg : j < 0
      · exact isCoprime_of_exponentiate hj hneg
      · exact isCoprime_of_exponentiate hk (by omega)
    obtain ⟨u, hu⟩ := isUnit_cast_iff.mpr hcoprime
    obtain ⟨-, hx⟩ := (exponentiate_eq_ok_of_unit hu).mp hj
    obtain ⟨-, hy⟩ := (exponentiate_eq_ok_of_unit hu).mp hk
    refine (exponentiate_eq_ok_of_unit hu).mpr ⟨m.isResidue_combine x y, ?_⟩
    rw [cast_combine, hx, hy, zpow_add, Units.val_mul]

/-- What combining, inverting and taking powers come to, for all integers. -/
structure Laws (m : Modulus) : Prop where
  invertible : ∀ a, (∃ b, m.inverse a = .ok b) ↔ Int.gcd a m.value = 1
  inverse : ∀ a b, m.inverse a = .ok b ↔ (0 < b ∧ b < m.value) ∧ m.combine a b = identity
  uninvertible : ∀ a e, m.inverse a = .error e ↔ Int.gcd a m.value ≠ 1 ∧ e = .notInvertible
  copies : ∀ a (k : Nat), m.exponentiate a k = .ok (m.product (List.replicate k a))
  negative : ∀ a k, k < 0 →
    m.exponentiate a k = m.inverse a >>= fun b => m.exponentiate b (-k)
  refused : ∀ a k e, m.exponentiate a k = .error e ↔
    k < 0 ∧ Int.gcd a m.value ≠ 1 ∧ e = .notInvertible
  sum : ∀ a j k x y, m.exponentiate a j = .ok x → m.exponentiate a k = .ok y →
    m.exponentiate a (j + k) = .ok (m.combine x y)
  product : ∀ as, m.product as = as.prod % m.value
  rearranged : ∀ as bs, as.Perm bs → m.product as = m.product bs

theorem laws_of_modulus (m : Modulus) : Laws m := by
  constructor
  case invertible =>
    intro a
    rw [exists_inverse_iff, Int.isCoprime_iff_gcd_eq_one]
  case inverse => exact fun _ _ => inverse_eq_ok_iff
  case uninvertible =>
    intro a e
    rw [inverse_eq_error, Int.isCoprime_iff_gcd_eq_one]
  case copies =>
    intro a k
    rw [exponentiate_of_nonneg (Int.natCast_nonneg k), Int.toNat_natCast, power_eq_product]
  case negative => exact fun _ _ => exponentiate_of_neg
  case refused =>
    intro a k e
    rw [exponentiate_eq_error, Int.isCoprime_iff_gcd_eq_one]
  case sum => exact fun _ _ _ _ _ => exponentiate_add
  case product => exact product_eq_emod
  case rearranged => exact fun _ _ => product_perm

/-- Modulo 15 the element -2 has an inverse, and 3 has none. -/
example : (⟨15, by decide⟩ : Modulus).exponentiate (-2) (-3) = .ok 13 := by cbv

example : (⟨15, by decide⟩ : Modulus).exponentiate 3 (-1) = .error .notInvertible := by cbv

end Revocation.Modulus
