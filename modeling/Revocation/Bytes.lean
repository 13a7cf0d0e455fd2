/-!
Byte strings, and the big-endian reading of one as a number. Main statements: `toNat_ofNat` and
`ofNat_toNat`, so that at one width writing and reading undo each other, and `ofText_inj`.
-/
namespace Revocation

abbrev Bytes := List UInt8

namespace Bytes

def toNat (bs : Bytes) : Nat := bs.foldl (fun n b => 256 * n + b.toNat) 0

/-- The last `width` base-256 digits of `n`, most significant first. -/
def ofNat : (width : Nat) → (n : Nat) → Bytes
  | 0, _ => []
  | w + 1, n => ofNat w (n / 256) ++ [UInt8.ofNat n]

/-- The UTF-8 form of a text. -/
def ofText (s : String) : Bytes := s.toList.flatMap String.utf8EncodeChar

theorem length_ofNat (w n : Nat) : (ofNat w n).length = w := by
  induction w generalizing n with
  | zero => rfl
  | succ w ih => simp [ofNat, ih]

theorem toNat_append_singleton (bs : Bytes) (b : UInt8) :
    toNat (bs ++ [b]) = 256 * toNat bs + b.toNat := by
  simp [toNat, List.foldl_append]

theorem toNat_ofNat (w n : Nat) : toNat (ofNat w n) = n % Nat.pow 256 w := by
  change _ = n % 256 ^ w
  induction w generalizing n with
  | zero => simp [ofNat, toNat, Nat.mod_one]
  | succ w ih =>
    rw [ofNat, toNat_append_singleton, ih, Nat.pow_succ, Nat.mul_comm (256 ^ w), Nat.mod_mul]
    simp [Nat.add_comm]

/-- Numbers that fit the width are told apart. -/
theorem ofNat_inj {w a b : Nat} (ha : a < Nat.pow 256 w) (hb : b < Nat.pow 256 w)
    (h : ofNat w a = ofNat w b) : a = b := by
  have hvalue := congrArg toNat h
  rwa [toNat_ofNat, toNat_ofNat, Nat.mod_eq_of_lt ha, Nat.mod_eq_of_lt hb] at hvalue

theorem ofNat_toNat (bs : Bytes) : ofNat bs.length (toNat bs) = bs := by
  suffices ∀ rs : Bytes, ofNat rs.length (toNat rs.reverse) = rs.reverse by
    simpa using this bs.reverse
  intro rs
  induction rs with
  | nil => rfl
  | cons b rs ih =>
    have hb := b.toNat_lt
    rw [List.reverse_cons, toNat_append_singleton, List.length_cons, ofNat,
      show (256 * toNat rs.reverse + b.toNat) / 256 = toNat rs.reverse by omega, ih]
    congr 2
    apply UInt8.toNat_inj.mp
    rw [UInt8.toNat_ofNat']
    omega

/-- Different texts have different bytes. -/
theorem ofText_inj {s t : String} (h : ofText s = ofText t) : s = t := by
  have hbytes : s.toList.utf8Encode = t.toList.utf8Encode := congrArg List.toByteArray h
  rw [String.utf8Encode_toList, String.utf8Encode_toList] at hbytes
  exact String.toByteArray_inj.mp hbytes

end Bytes
end Revocation
