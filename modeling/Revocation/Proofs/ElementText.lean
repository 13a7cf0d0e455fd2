import Mathlib.Tactic.NormNum
import Revocation.Proofs.Wire

/-!
Elements as texts. What is read is a row of digit pairs in either case, with blanks around the
pairs, whose value is an element; what is written for a number is the one text of fixed width in
small digits that has its value. So a number that is no element is written where it fits, and not
read back. Main statement: `texts_of_elements`.
-/
namespace Revocation

namespace Hex

/-- White space in ASCII. -/
def blanks : List Char := [' ', '\t', '\n', '\x0b', '\x0c', '\r']

def capitals : List Char := "0123456789ABCDEF".toList

/-- That a character is the digit of this value, in either case. -/
def IsDigit (c : Char) (n : Nat) : Prop := digits[n]? = some c ∨ capitals[n]? = some c

instance (c : Char) (n : Nat) : Decidable (IsDigit c n) := inferInstanceAs (Decidable (_ ∨ _))

/-- That a text is a row of digit pairs, a pair for each byte, with blanks only around the pairs. -/
inductive Spells : List Char → Bytes → Prop
  | nil : Spells [] []
  | blank {c : Char} {cs : List Char} {bs : Bytes} (hc : c ∈ blanks) (next : Spells cs bs) :
      Spells (c :: cs) bs
  | pair {c d : Char} {high low : Nat} {b : UInt8} {cs : List Char} {bs : Bytes}
      (hhigh : IsDigit c high) (hlow : IsDigit d low) (hb : b.toNat = 16 * high + low)
      (next : Spells cs bs) : Spells (c :: d :: cs) (b :: bs)

variable {c : Char} {n : Nat} {cs : List Char} {bs : Bytes} {s : String}

theorem IsDigit.lt (h : IsDigit c n) : n < 16 := by
  cases h with
  | inl h => exact (List.getElem?_eq_some_iff.mp h).1
  | inr h => exact (List.getElem?_eq_some_iff.mp h).1

theorem IsDigit.value?_and_isBlank (h : IsDigit c n) :
    Hex.value? c = some n ∧ isBlank c = false := by
  have hdigits : ∀ n < 16, digits[n]?.all fun c => Hex.value? c = some n ∧ isBlank c = false := by
    decide
  have hcapitals : ∀ n < 16,
      capitals[n]?.all fun c => Hex.value? c = some n ∧ isBlank c = false := by
    decide
  cases h with
  | inl hc =>
    have hall := hdigits n (IsDigit.lt (.inl hc))
    rw [hc] at hall
    exact of_decide_eq_true hall
  | inr hc =>
    have hall := hcapitals n (IsDigit.lt (.inr hc))
    rw [hc] at hall
    exact of_decide_eq_true hall

theorem IsDigit.value? (h : IsDigit c n) : Hex.value? c = some n := h.value?_and_isBlank.1

theorem IsDigit.isBlank (h : IsDigit c n) : isBlank c = false := h.value?_and_isBlank.2

theorem toNat_lt_of_value? (h : Hex.value? c = some n) : c.toNat < 128 := by
  have hle : ∀ {d : Char}, c ≤ d → c.toNat ≤ d.toNat := fun h => UInt32.le_iff_toNat_le.mp h
  rw [Hex.value?] at h
  split at h
  · next hc => exact Nat.lt_of_le_of_lt (hle hc.2) (by decide)
  · split at h
    · next hc => exact Nat.lt_of_le_of_lt (hle hc.2) (by decide)
    · split at h
      · next hc => exact Nat.lt_of_le_of_lt (hle hc.2) (by decide)
      · cases h

theorem value?_eq_some_iff : Hex.value? c = some n ↔ IsDigit c n := by
  constructor
  · intro h
    have hascii : ∀ k < 128, ∀ n ∈ Hex.value? (Char.ofNat k), IsDigit (Char.ofNat k) n := by
      decide +kernel
    have hc := hascii c.toNat (toNat_lt_of_value? h) n
    rw [Char.ofNat_toNat] at hc
    exact hc h
  · exact IsDigit.value?

theorem isBlank_iff : isBlank c = true ↔ c ∈ blanks := by
  have hchar : ∀ d : Char, c = d ↔ c.toNat = d.toNat := fun d => Char.toNat_inj.symm
  simp only [isBlank, blanks, List.mem_cons, List.not_mem_nil, or_false, hchar, Bool.or_eq_true,
    Bool.and_eq_true, decide_eq_true_eq]
  change c.toNat = 32 ∨ 9 ≤ c.toNat ∧ c.toNat ≤ 13 ↔ c.toNat = 32 ∨ c.toNat = 9 ∨ c.toNat = 10 ∨
    c.toNat = 11 ∨ c.toNat = 12 ∨ c.toNat = 13
  omega

theorem read_of_spells (h : Spells cs bs) : read cs = .ok bs := by
  induction h with
  | nil => rfl
  | blank hc _ ih => rw [read, if_pos (isBlank_iff.mpr hc), ih]
  | pair hhigh hlow hb _ ih =>
    rw [read]
    simp only [hhigh.isBlank, hhigh.value?, hlow.value?, ih, Bool.false_eq_true, if_false, ← hb,
      UInt8.ofNat_toNat]

theorem spells_of_read (h : read cs = .ok bs) : Spells cs bs := by
  fun_induction read cs generalizing bs with
  | case1 =>
    cases h
    exact .nil
  | case2 c rest hc ih => exact .blank (isBlank_iff.mp hc) (ih h)
  | case3 => cases h
  | case4 => cases h
  | case5 => cases h
  | case6 c hblank high hhigh d rest low hlow bs' hrest ih =>
    cases h
    have hhigh := value?_eq_some_iff.mp hhigh
    have hlow := value?_eq_some_iff.mp hlow
    refine .pair hhigh hlow ?_ (ih hrest)
    have := hhigh.lt
    have := hlow.lt
    rw [UInt8.toNat_ofNat']
    omega
  | case7 => cases h

theorem read_eq_ok_iff : read cs = .ok bs ↔ Spells cs bs := ⟨spells_of_read, read_of_spells⟩

theorem Spells.ascii (h : Spells cs bs) : ∀ c ∈ cs, c.toNat < 128 := by
  have hblanks : ∀ c, c ∈ blanks → c.toNat < 128 := by simp [blanks]
  induction h with
  | nil => simp
  | blank hc _ ih => exact List.forall_mem_cons.mpr ⟨hblanks _ hc, ih⟩
  | pair hhigh hlow _ _ ih =>
    refine List.forall_mem_cons.mpr ⟨toNat_lt_of_value? hhigh.value?, ?_⟩
    exact List.forall_mem_cons.mpr ⟨toNat_lt_of_value? hlow.value?, ih⟩

theorem decode_eq_ok_iff : decode s = .ok bs ↔ Spells s.toList bs := by
  rw [decode]
  cases hfind : s.toList.findIdx? (127 < ·.toNat) with
  | some i =>
    have hfar : ¬ ∀ c ∈ s.toList, c.toNat < 128 := by
      intro hall
      rw [List.findIdx?_eq_none_iff.mpr (by simpa [Nat.lt_succ_iff] using hall)] at hfind
      cases hfind
    constructor
    · intro h
      cases h
    · intro h
      exact (hfar h.ascii).elim
  | none =>
    rw [← read_eq_ok_iff]
    dsimp only
    cases read s.toList <;> simp

/-- A row of digits without blanks and capitals is what is written for its bytes. -/
theorem Spells.eq_write (h : Spells cs bs) (hcs : ∀ c ∈ cs, c ∈ digits) : cs = write bs := by
  have hdigit : ∀ {c n}, IsDigit c n → c ∈ digits → c = digit n := by
    intro c n hc hmem
    obtain ⟨k, hk⟩ := List.mem_iff_getElem?.mp hmem
    have hvalue := IsDigit.value? (.inl hk)
    rw [hc.value?] at hvalue
    cases hvalue
    rw [digit, List.getD_eq_getElem?_getD, hk, Option.getD_some]
  induction h with
  | nil => rfl
  | blank hc _ _ =>
    obtain ⟨k, hk⟩ := List.mem_iff_getElem?.mp (hcs _ List.mem_cons_self)
    cases (IsDigit.isBlank (.inl hk)).symm.trans (isBlank_iff.mpr hc)
  | @pair c d high low b cs bs hhigh hlow hb _ ih =>
    obtain ⟨hc, hrest⟩ := List.forall_mem_cons.mp hcs
    obtain ⟨hd, hrest⟩ := List.forall_mem_cons.mp hrest
    have hlt := hlow.lt
    have hdiv : b.toNat / 16 = high := by omega
    have hmod : b.toNat % 16 = low := by omega
    rw [write, List.flatMap_cons, ← write, Hex.pair, hdiv, hmod, ← hdigit hhigh hc,
      ← hdigit hlow hd, ih hrest]
    rfl

theorem mem_digits_of_mem_write : ∀ c ∈ write bs, c ∈ digits := by
  have hdigit : ∀ n < 16, digit n ∈ digits := by decide +kernel
  intro c hc
  obtain ⟨b, -, hc⟩ := List.mem_flatMap.mp hc
  have hb := b.toNat_lt
  simp only [pair, List.mem_cons, List.not_mem_nil, or_false] at hc
  cases hc with
  | inl h => exact h ▸ hdigit _ (by omega)
  | inr h => exact h ▸ hdigit _ (by omega)

/-- That a text spells the bytes of a number, most significant one first. -/
def HasValue (s : String) (n : Nat) : Prop := ∃ bs, Spells s.toList bs ∧ Bytes.toNat bs = n

theorem HasValue.unique {k : Nat} (hn : HasValue s n) (hk : HasValue s k) : n = k := by
  obtain ⟨bs, hbs, rfl⟩ := hn
  obtain ⟨bs', hbs', rfl⟩ := hk
  cases (read_of_spells hbs).symm.trans (read_of_spells hbs')
  rfl

/-- That a text is `2 * w` digits and nothing else, none of them a capital. -/
structure IsCanonical (w : Nat) (s : String) : Prop where
  length : s.toList.length = 2 * w
  digits : ∀ c ∈ s.toList, c ∈ Hex.digits

end Hex

theorem Bytes.toNat_lt (bs : Bytes) : toNat bs < 256 ^ bs.length := by
  have h := toNat_ofNat bs.length (toNat bs)
  rw [ofNat_toNat] at h
  rw [h]
  exact Nat.mod_lt _ (Nat.pow_pos (by decide))

theorem Hex.HasValue.lt {w n : Nat} {s : String} (h : HasValue s n) (hs : IsCanonical w s) :
    n < 256 ^ w := by
  obtain ⟨bs, hspells, rfl⟩ := h
  have hwrite := hspells.eq_write hs.digits
  have hlength := hs.length
  rw [hwrite, length_write] at hlength
  have hlt := Bytes.toNat_lt bs
  rwa [show bs.length = w by omega] at hlt

theorem Hex.encode_ofNat_iff {w n : Nat} {s : String} (hn : n < 256 ^ w) :
    s = Hex.encode (Bytes.ofNat w n) ↔ IsCanonical w s ∧ HasValue s n := by
  constructor
  · intro h
    have hs : s.toList = write (Bytes.ofNat w n) := by rw [h, encode, String.toList_ofList]
    refine ⟨⟨?_, ?_⟩, Bytes.ofNat w n, ?_, ?_⟩
    · rw [hs, length_write, Bytes.length_ofNat]
    · rw [hs]
      exact mem_digits_of_mem_write
    · rw [hs, ← read_eq_ok_iff, read_write]
    · rw [Bytes.toNat_ofNat]
      exact Nat.mod_eq_of_lt hn
  · rintro ⟨hs, bs, hspells, rfl⟩
    have hwrite := hspells.eq_write hs.digits
    have hlength := hs.length
    rw [hwrite, length_write] at hlength
    have hw : w = bs.length := by omega
    rw [hw, Bytes.ofNat_toNat, encode, ← hwrite, String.ofList_toList]

namespace Modulus

open Hex

variable {m : Modulus} {a b : Int} {s : String}

theorem pow_width_le (m : Modulus) : 256 ^ (m.width - 1) ≤ m.value := by
  have hvalue := m.value_pos
  have hbits : 2 ^ (m.bits - 1) ≤ m.value := Nat.log2_self_le (by omega)
  have hwidth : 8 * (m.width - 1) ≤ m.bits - 1 := by
    have : m.width = (m.bits + 7) / 8 := rfl
    omega
  calc 256 ^ (m.width - 1) = 2 ^ (8 * (m.width - 1)) := by rw [Nat.pow_mul]
    _ ≤ 2 ^ (m.bits - 1) := Nat.pow_le_pow_right (by decide) hwidth
    _ ≤ m.value := hbits

theorem decode_of_hasValue {n : Nat} (h : HasValue s n) :
    m.decode s = if 0 < n ∧ n < m.value then .ok n else .error .outOfRange := by
  obtain ⟨bs, hspells, rfl⟩ := h
  rw [Modulus.decode, Hex.decode_eq_ok_iff.mpr hspells]

theorem decode_of_not_hasValue (h : ¬ ∃ n, HasValue s n) :
    ∃ f, m.decode s = .error (.badHex f) := by
  rw [Modulus.decode]
  cases hs : Hex.decode s with
  | error f => exact ⟨f, rfl⟩
  | ok bs => exact (h ⟨_, bs, Hex.decode_eq_ok_iff.mp hs, rfl⟩).elim

theorem decode_eq_ok_iff :
    m.decode s = .ok a ↔ m.IsElement a ∧ ∃ n : Nat, HasValue s n ∧ a = n := by
  constructor
  · intro h
    refine ⟨isElement_of_decode h, ?_⟩
    by_cases hs : ∃ n, HasValue s n
    · obtain ⟨n, hn⟩ := hs
      rw [decode_of_hasValue hn] at h
      split at h
      · cases h
        exact ⟨n, hn, rfl⟩
      · cases h
    · obtain ⟨f, hf⟩ := decode_of_not_hasValue (m := m) hs
      cases h.symm.trans hf
  · rintro ⟨⟨hpos, hlt⟩, n, hn, rfl⟩
    rw [decode_of_hasValue hn, if_pos (by omega)]

theorem natCast_pow_width (m : Modulus) : ((256 ^ m.width : Nat) : Int) = 256 ^ m.width := by
  push_cast
  rfl

theorem encode_of_negative (h : a < 0) : m.encode a = .error .negativeElement := by
  rw [encode, if_pos h]

section

variable (h0 : 0 ≤ a)
include h0

theorem encode_of_le (h : 256 ^ m.width ≤ a) : m.encode a = .error .elementTooWide := by
  have hpow : ((Nat.pow 256 m.width : Nat) : Int) = 256 ^ m.width := m.natCast_pow_width
  rw [encode, if_neg (by omega), if_pos (by omega)]

theorem encode_of_lt (h : a < 256 ^ m.width) : m.encode a = .ok (m.written a) := by
  have hpow : ((Nat.pow 256 m.width : Nat) : Int) = 256 ^ m.width := m.natCast_pow_width
  rw [encode, if_neg (by omega), if_neg (by omega), written]

end

/-- What is written is the canonical text of the number. -/
theorem encode_eq_ok_iff :
    m.encode a = .ok s ↔ IsCanonical m.width s ∧ ∃ n : Nat, HasValue s n ∧ a = n := by
  constructor
  · intro h
    by_cases h0 : a < 0
    · rw [encode_of_negative h0] at h
      cases h
    · by_cases hwide : 256 ^ m.width ≤ a
      · rw [encode_of_le (by omega) hwide] at h
        cases h
      · rw [encode_of_lt (by omega) (by omega)] at h
        cases h
        have hlt : a.toNat < 256 ^ m.width := by
          have hpow := m.natCast_pow_width
          omega
        obtain ⟨hs, hn⟩ := (encode_ofNat_iff hlt).mp rfl
        exact ⟨hs, a.toNat, hn, by omega⟩
  · rintro ⟨hs, n, hn, rfl⟩
    have hlt := hn.lt hs
    rw [encode_of_lt (by omega) (by exact_mod_cast hlt), written, Int.toNat_natCast]
    exact congrArg Except.ok ((encode_ofNat_iff hlt).mpr ⟨hs, hn⟩).symm

theorem encode_eq_error_iff : (∃ e, m.encode a = .error e) ↔ a < 0 ∨ 256 ^ m.width ≤ a := by
  constructor
  · rintro ⟨e, he⟩
    by_contra hnot
    obtain ⟨h0, hlt⟩ := not_or.mp hnot
    cases he.symm.trans (encode_of_lt (by omega) (by omega))
  · intro h
    by_cases h0 : a < 0
    · exact ⟨_, encode_of_negative h0⟩
    · exact ⟨_, encode_of_le (by omega) (h.resolve_left h0)⟩

/-- What is written is read back if it is an element. -/
theorem decode_of_encode (h : m.encode a = .ok s) :
    m.decode s = if m.IsElement a then .ok a else .error .outOfRange := by
  obtain ⟨-, n, hn, rfl⟩ := encode_eq_ok_iff.mp h
  rw [decode_of_hasValue hn]
  simp only [IsElement, Int.natCast_pos, Int.ofNat_lt]

theorem encode_inj (ha : m.encode a = .ok s) (hb : m.encode b = .ok s) : a = b := by
  obtain ⟨-, n, hn, rfl⟩ := encode_eq_ok_iff.mp ha
  obtain ⟨-, k, hk, rfl⟩ := encode_eq_ok_iff.mp hb
  rw [hn.unique hk]

/-- Among all texts that are read for an element, one is canonical. -/
theorem exists_canonical (h : m.decode s = .ok a) :
    ∃ c, m.encode a = .ok c ∧ ∀ t, IsCanonical m.width t ∧ m.decode t = .ok a ↔ t = c := by
  obtain ⟨ha, -⟩ := decode_eq_ok_iff.mp h
  refine ⟨_, encode_eq_ok ha, fun t => ?_⟩
  constructor
  · rintro ⟨ht, h⟩
    obtain ⟨-, hvalue⟩ := decode_eq_ok_iff.mp h
    cases (encode_eq_ok ha).symm.trans (encode_eq_ok_iff.mpr ⟨ht, hvalue⟩)
    rfl
  · rintro rfl
    exact ⟨(encode_eq_ok_iff.mp (encode_eq_ok ha)).1, decode_written ha⟩

/-- Which texts are read for which numbers, and which text is written for which. -/
structure Texts (m : Modulus) : Prop where
  width : 256 ^ (m.width - 1) ≤ m.value ∧ m.value < 256 ^ m.width
  read : ∀ s a, m.decode s = .ok a ↔ m.IsElement a ∧ ∃ n : Nat, HasValue s n ∧ a = n
  unspelled : ∀ s, (¬ ∃ n, HasValue s n) → ∃ f, m.decode s = .error (.badHex f)
  outside : ∀ s (n : Nat), HasValue s n → ¬ m.IsElement n → m.decode s = .error .outOfRange
  values : ∀ v : Json, (∀ s, v ≠ .string s) → m.decodeValue v = .error (.notText v.shape)
  strings : ∀ s, m.decodeValue (.string s) = m.decode s
  written : ∀ a s, m.encode a = .ok s ↔
    IsCanonical m.width s ∧ ∃ n : Nat, HasValue s n ∧ a = n
  overflow : ∀ a, (∃ e, m.encode a = .error e) ↔ a < 0 ∨ 256 ^ m.width ≤ a
  negative : ∀ a, a < 0 → m.encode a = .error .negativeElement
  tooWide : ∀ a, 256 ^ m.width ≤ a → m.encode a = .error .elementTooWide
  readBack : ∀ a s, m.encode a = .ok s →
    m.decode s = if m.IsElement a then .ok a else .error .outOfRange
  injective : ∀ a b s, m.encode a = .ok s → m.encode b = .ok s → a = b
  canonical : ∀ s a, m.decode s = .ok a →
    ∃ c, m.encode a = .ok c ∧ ∀ t, IsCanonical m.width t ∧ m.decode t = .ok a ↔ t = c

theorem texts_of_elements (m : Modulus) : Texts m := by
  constructor
  case width => exact ⟨m.pow_width_le, m.value_lt_pow_width⟩
  case read => exact fun _ _ => decode_eq_ok_iff
  case unspelled => exact fun _ => decode_of_not_hasValue
  case outside =>
    intro s n hn hnot
    rw [decode_of_hasValue hn, if_neg]
    exact fun h => hnot ⟨by omega, by omega⟩
  case values =>
    intro v hv
    cases v with
    | string s => exact (hv s rfl).elim
    | _ => rfl
  case strings => exact fun _ => rfl
  case written => exact fun _ _ => encode_eq_ok_iff
  case overflow => exact fun _ => encode_eq_error_iff
  case negative => exact fun _ => encode_of_negative
  case tooWide =>
    intro a h
    have hpow : (0 : Int) ≤ 256 ^ m.width := by positivity
    exact encode_of_le (by omega) h
  case readBack => exact fun _ _ => decode_of_encode
  case injective => exact fun _ _ _ => encode_inj
  case canonical => exact fun _ _ => exists_canonical

/-- Blanks stand around the pairs and not in them. -/
example : (⟨257, by decide⟩ : Modulus).decode "\t01 00\n" = .ok 256 := by cbv

example : (⟨257, by decide⟩ : Modulus).decode "0 100" = .error (.badHex ⟨1⟩) := by cbv

end Modulus

end Revocation
