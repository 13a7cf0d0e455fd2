/-!
The group that registries accumulate in: integers modulo some `m ≥ 3`, multiplied. Elements are
plain integers and need not be reduced; every operation that combines answers a residue in
`0 ≤ r < m`. Main statements: `bezout_eq`, and what `combine`, `invert?` and `power` are modulo `m`.
-/
namespace Revocation

/-- A modulus to accumulate in. Two residues leave no room for a non-trivial element. -/
structure Modulus where
  value : Nat
  three_le : 3 ≤ value
deriving DecidableEq

namespace Modulus

def ofInt? (n : Int) : Option Modulus :=
  if h : 3 ≤ n.toNat then some ⟨n.toNat, h⟩ else none

/-- The prime `2 ^ 521 - 1`, in use where no other modulus is named. -/
def standard : Modulus where
  value := 2 ^ 521 - 1
  three_le := Nat.le_sub_of_add_le
    (Nat.pow_le_pow_right (by decide : 2 > 0) (by decide : 2 ≤ 521))

variable (m : Modulus)

theorem value_pos : 0 < m.value := Nat.lt_of_lt_of_le (by decide) m.three_le

/-- How many binary digits the modulus has. -/
def bits : Nat := Nat.log2 m.value + 1

/-- The neutral element: the accumulator of the empty set. -/
def identity : Int := 1

def combine (a b : Int) : Int := a * b % m.value

/-- All elements combined, from the left, starting at the identity. -/
def product (elements : List Int) : Int := elements.foldl m.combine identity

theorem combine_nonneg (a b : Int) : 0 ≤ m.combine a b :=
  Int.emod_nonneg _ (by have := m.value_pos; omega)

theorem combine_lt (a b : Int) : m.combine a b < m.value :=
  Int.emod_lt_of_pos _ (by have := m.value_pos; omega)

theorem combine_comm (a b : Int) : m.combine a b = m.combine b a := by
  rw [combine, combine, Int.mul_comm]

theorem combine_assoc (a b c : Int) :
    m.combine (m.combine a b) c = m.combine a (m.combine b c) := by
  simp only [combine]
  rw [Int.mul_emod, Int.emod_emod, ← Int.mul_emod, Int.mul_emod a, Int.emod_emod, ← Int.mul_emod,
    Int.mul_assoc]

/-- Coefficients `(x, y)` with `a * x + b * y = gcd a b`. -/
def bezout (a b : Nat) : Int × Int :=
  if b = 0 then (1, 0)
  else
    let (x, y) := bezout b (a % b)
    (y, x - (a / b : Nat) * y)
termination_by b
decreasing_by exact Nat.mod_lt _ (Nat.pos_of_ne_zero ‹_›)

theorem bezout_eq (a b : Nat) : a * (bezout a b).1 + b * (bezout a b).2 = Nat.gcd a b := by
  fun_induction bezout a b with
  | case1 a => simp
  | case2 a b h x y hxy ih =>
    have hd : (a : Int) = b * (a / b : Nat) + (a % b : Nat) := by
      exact_mod_cast (Nat.div_add_mod a b).symm
    rw [Nat.gcd_comm, Nat.gcd_rec, Nat.gcd_comm]
    simp only [hxy] at ih
    rw [← ih]
    generalize ((a / b : Nat) : Int) = q at *
    generalize ((a % b : Nat) : Int) = r at *
    rw [hd]
    grind

/-- The `b` with `0 < b < m` and `a * b ≡ 1`, when `a` has no factor in common with `m`. -/
def invert? (a : Int) : Option Int :=
  let r := (a % m.value).toNat
  if Nat.gcd r m.value = 1 then some ((bezout r m.value).1 % m.value) else none

/-- `a` combined with itself `k` times, by repeated squaring. -/
def power (a : Int) (k : Nat) : Int :=
  if k = 0 then identity
  else
    let half := power a (k / 2)
    let square := m.combine half half
    if k % 2 = 0 then square else m.combine square a
termination_by k

/-- Negative exponents count copies of the inverse. -/
def exponentiate? (a : Int) (k : Int) : Option Int :=
  if 0 ≤ k then some (m.power a k.toNat)
  else (m.invert? a).map (m.power · (-k).toNat)

end Modulus
end Revocation
