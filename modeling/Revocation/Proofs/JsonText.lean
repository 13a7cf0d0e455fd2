import Revocation.Json.Printer
import Revocation.Json.Reader

/-!
Texts and whole numbers are read from JSON as they were written. Main statements: `leaf_text` and
`scalar_int`.
-/
namespace Revocation.Json

open Text (hexDigits)

/-! Texts. -/

/-- What reading a character's literal form gives. -/
def codeUnits (ascii : Bool) (c : Char) : List Nat :=
  if ascii ∧ 0x10000 ≤ c.toNat then
    [0xd800 + (c.toNat - 0x10000) / 0x400, 0xdc00 + (c.toNat - 0x10000) % 0x400]
  else [c.toNat]

theorem hexValue?_hexDigits {n : Nat} (h : n < 0x10000) : ∃ i j k l,
    hexDigits 4 n = [i, j, k, l] ∧ hexValue? [i, j, k, l] = some n := by
  refine ⟨_, _, _, _, rfl, ?_⟩
  have hd : ∀ x, Hex.value? (Hex.digit (x % 16)) = some (x % 16) :=
    fun x => Hex.value?_digit (Nat.mod_lt x (by decide))
  simp only [hexValue?, List.foldlM_cons, List.foldlM_nil, hd, Option.map_some, Option.bind_eq_bind,
    Option.bind_some, Option.pure_def]
  congr 1
  omega

variable {ascii : Bool} {start rest : List Char} {c l : Char}

theorem units_unitEscape {n : Nat} (h : n < 0x10000) :
    units start (unitEscape n ++ l :: rest) =
      (units start (l :: rest)).map fun (us, r) => (n :: us, r) := by
  obtain ⟨i, j, k, m, hdigits, hvalue⟩ := hexValue?_hexDigits h
  simp only [unitEscape, hdigits, List.cons_append, List.nil_append]
  rw [units]
  simp only [hvalue]
  rfl

theorem codeUnits_of_lt (h : c.toNat < 0x10000) : codeUnits ascii c = [c.toNat] :=
  if_neg fun h' => Nat.not_le.mpr h h'.2

theorem units_short {e : Char} (he : escape? e = some c) (hu : e ≠ 'u') (h : c.toNat < 0x10000) :
    units start ('\\' :: e :: l :: rest) =
      (units start (l :: rest)).map fun (us, r) => (codeUnits ascii c ++ us, r) := by
  rw [units.eq_def, codeUnits_of_lt h]
  simp [he, hu]

theorem units_plain (hq : c ≠ '"') (hb : c ≠ '\\') (hc : 0x20 ≤ c.toNat)
    (h : ascii = false ∨ c.toNat < 0x10000) : units start (c :: l :: rest) =
      (units start (l :: rest)).map fun (us, r) => (codeUnits ascii c ++ us, r) := by
  have hcode : codeUnits ascii c = [c.toNat] := by
    rcases h with rfl | h
    · rfl
    · exact codeUnits_of_lt h
  rw [units.eq_def, hcode]
  simp only [if_neg hq, if_neg hb, if_neg (Nat.not_lt.mpr hc)]
  rfl

theorem toNat_cases (c : Char) : c.toNat < 0xd800 ∨ 0xdfff < c.toNat ∧ c.toNat < 0x110000 := c.valid

theorem units_escapeChar : units start (escapeChar ascii c ++ l :: rest) =
    (units start (l :: rest)).map fun (us, r) => (codeUnits ascii c ++ us, r) := by
  rw [escapeChar]
  split
  · next h =>
    have hc : c = '"' ∨ c = '\\' := by simpa using h
    rcases hc with rfl | rfl
    · exact units_short rfl (by decide) (by decide)
    · exact units_short rfl (by decide) (by decide)
  · next hmark =>
    obtain ⟨hq, hb⟩ : c ≠ '"' ∧ c ≠ '\\' := by simpa using hmark
    split
    · next h => exact h ▸ units_short rfl (by decide) (by decide)
    split
    · next h => exact h ▸ units_short rfl (by decide) (by decide)
    split
    · next h => exact h ▸ units_short rfl (by decide) (by decide)
    split
    · next h => exact h ▸ units_short rfl (by decide) (by decide)
    split
    · next h => exact h ▸ units_short rfl (by decide) (by decide)
    split
    · next h =>
      rw [units_unitEscape (by omega), codeUnits_of_lt (by omega)]
      rfl
    split
    · next hc h =>
      refine units_plain hq hb (by omega) ?_
      cases ascii with
      | false => exact .inl rfl
      | true => exact .inr (by simp at h; omega)
    · next hc h =>
      split
      · next hlt =>
        rw [units_unitEscape hlt, codeUnits_of_lt hlt]
        rfl
      · next hge =>
        have hbound := toNat_cases c
        have hascii : ascii = true := by
          cases ascii with
          | true => rfl
          | false => simp at h
        have hsplit : codeUnits ascii c = [0xd800 + (c.toNat - 0x10000) / 0x400,
            0xdc00 + (c.toNat - 0x10000) % 0x400] := if_pos ⟨hascii, by omega⟩
        rw [List.append_assoc]
        refine (units_unitEscape (by omega)).trans ?_
        refine (congrArg _ (units_unitEscape (by omega))).trans ?_
        rw [hsplit]
        cases units start (l :: rest) <;> rfl

theorem units_flatMap (cs : List Char) :
    units start (cs.flatMap (escapeChar ascii) ++ '"' :: rest) =
      .ok (cs.flatMap (codeUnits ascii), rest) := by
  induction cs with
  | nil =>
    rw [List.flatMap_nil, List.nil_append, units.eq_def]
    simp
  | cons c cs ih =>
    obtain ⟨l, tail, htail⟩ := List.exists_cons_of_ne_nil
      (show cs.flatMap (escapeChar ascii) ++ '"' :: rest ≠ [] by simp)
    rw [List.flatMap_cons, List.append_assoc, htail, units_escapeChar, ← htail, ih]
    rfl

theorem character_toNat (c : Char) : Encoding.character c.toNat = c := by
  have hvalid : c.toNat.isValidChar := c.valid
  rw [Encoding.character, if_pos hvalid, Char.ofNat_toNat]

theorem joined_cons {us : List Nat} (h : ¬ (0xd800 ≤ c.toNat ∧ c.toNat < 0xdc00)) :
    joined (c.toNat :: us) = c :: joined us := by
  cases us with
  | nil => rw [joined, character_toNat, joined]
  | cons v us => rw [joined, if_neg fun h' => h ⟨h'.1, h'.2.1⟩, character_toNat]

theorem joined_flatMap (cs : List Char) : joined (cs.flatMap (codeUnits ascii)) = cs := by
  induction cs with
  | nil => rfl
  | cons c cs ih =>
    have hbound := toNat_cases c
    rw [List.flatMap_cons, codeUnits]
    split
    · next h =>
      obtain ⟨-, h⟩ := h
      have hpair : 0x10000 + (0xd800 + (c.toNat - 0x10000) / 0x400 - 0xd800) * 0x400 +
          (0xdc00 + (c.toNat - 0x10000) % 0x400 - 0xdc00) = c.toNat := by omega
      rw [List.cons_append, List.cons_append, List.nil_append, joined, if_pos (by omega), hpair,
        character_toNat, ih]
    · rw [List.cons_append, List.nil_append, joined_cons (by omega), ih]

theorem text_literal (s : String) :
    text start (s.toList.flatMap (escapeChar ascii) ++ '"' :: rest) = .ok (s, rest) := by
  rw [text, units_flatMap]
  simp only [Except.map, joined_flatMap, String.ofList_toList]

theorem leaf_text (s : String) :
    leaf (textLiteral ascii s ++ rest) = .ok (.string s, rest) := by
  rw [textLiteral, List.cons_append, List.cons_append, List.append_assoc, List.cons_append,
    List.nil_append, leaf, text_literal]
  rfl

/-! Whole numbers. -/

/-- What may stand after a whole number without being read as part of it. -/
def Ends (rest : List Char) : Prop :=
  ∀ c ∈ rest.head?, Numeral.isDigit c = false ∧ c ≠ '.' ∧ c ≠ 'e' ∧ c ≠ 'E'

theorem isDigit_of_mem_toDigits {n : Nat} (h : c ∈ Nat.toDigits 10 n) : Numeral.isDigit c := by
  have hc := Nat.isDigit_of_mem_toDigits (by decide) (by decide) h
  simp only [Char.isDigit, Bool.and_eq_true, decide_eq_true_eq] at hc
  simp only [Numeral.isDigit, Bool.and_eq_true, decide_eq_true_eq]
  exact hc

theorem digitChar_ne_zero {n : Nat} (h : n < 10) (hn : 0 < n) : Nat.digitChar n ≠ '0' := by
  revert n
  decide

theorem head_toDigits {n : Nat} (hn : 0 < n) : ∃ c cs, Nat.toDigits 10 n = c :: cs ∧ c ≠ '0' := by
  induction n using Nat.strongRecOn with
  | ind n ih =>
    rw [Nat.toDigits_eq_if (by decide)]
    split
    · next h => exact ⟨_, [], rfl, digitChar_ne_zero h hn⟩
    · next h =>
      obtain ⟨c, cs, heq, hc⟩ := ih (n / 10) (by omega) (by omega)
      exact ⟨c, cs ++ [Nat.digitChar (n % 10)], by rw [heq]; rfl, hc⟩

theorem wholePart_toDigits (n : Nat) (h : Ends rest) :
    wholePart (Nat.toDigits 10 n ++ rest) = (Nat.toDigits 10 n, rest) := by
  have hrest : rest.takeWhile Numeral.isDigit = [] ∧ rest.dropWhile Numeral.isDigit = rest := by
    cases rest with
    | nil => exact ⟨rfl, rfl⟩
    | cons c cs =>
      have hc := (h c rfl).1
      simp [hc]
  rcases Nat.eq_zero_or_pos n with rfl | hn
  · rw [Nat.toDigits_zero]
    rfl
  · obtain ⟨c, cs, heq, hc⟩ := head_toDigits hn
    have hall : ∀ d, d ∈ Nat.toDigits 10 n → Numeral.isDigit d := fun d => isDigit_of_mem_toDigits
    have hskip : wholePart (Nat.toDigits 10 n ++ rest) =
        ((Nat.toDigits 10 n ++ rest).takeWhile Numeral.isDigit,
          (Nat.toDigits 10 n ++ rest).dropWhile Numeral.isDigit) := by
      rw [heq, List.cons_append, wholePart]
      rintro rest' h'
      exact hc (List.cons.inj h').1
    rw [hskip, List.takeWhile_append_of_pos hall, List.dropWhile_append_of_pos hall, hrest.1,
      hrest.2, List.append_nil]

theorem value_toDigits (n : Nat) : Numeral.value (Numeral.digitsOf (Nat.toDigits 10 n)) = n := by
  rw [Numeral.value, Numeral.digitsOf, List.foldl_map]
  exact Nat.ofDigitChars_ten_toDigits

theorem fraction?_of_ends (h : Ends rest) : fraction? rest = none := by
  cases rest with
  | nil => rfl
  | cons c cs =>
    rw [fraction?]
    rintro cs' h'
    exact (h c rfl).2.1 (List.cons.inj h').1

theorem exponent?_of_ends (h : Ends rest) : exponent? rest = none := by
  cases rest with
  | nil => rfl
  | cons c cs =>
    obtain ⟨-, -, he, hE⟩ := h c rfl
    rw [exponent?, if_neg (by simp [he, hE])]

theorem length_toDigits_le {n k : Nat} (hk : 0 < k) (h : n < Nat.pow 10 k) :
    ¬ k < (Nat.toDigits 10 n).length :=
  Nat.not_lt.mpr ((Nat.length_toDigits_le_iff (by decide) hk).mpr h)

theorem exists_cons_toDigits (n : Nat) :
    ∃ c cs, Nat.toDigits 10 n = c :: cs ∧ Numeral.isDigit c := by
  obtain ⟨c, cs, heq⟩ := List.exists_cons_of_ne_nil (Nat.toDigits_ne_nil (n := n) (b := 10))
  exact ⟨c, cs, heq, isDigit_of_mem_toDigits (heq ▸ List.mem_cons_self)⟩

theorem number_neg {n : Nat} (hn : n < Nat.pow 10 Numeral.limit) (h : Ends rest) :
    number ('-' :: (Nat.toDigits 10 n ++ rest)) = .ok (.int (-n), rest) := by
  have hne : (Nat.toDigits 10 n).isEmpty = false := by simp
  simp only [number, wholePart_toDigits n h, hne, fraction?_of_ends h, exponent?_of_ends h,
    Option.map_none, Option.getD_none, Option.isNone_none, Bool.and_self, if_true,
    if_neg (length_toDigits_le (by decide) hn), value_toDigits, Bool.false_eq_true, if_false]

theorem number_nat {n : Nat} (hn : n < Nat.pow 10 Numeral.limit) (h : Ends rest) :
    number (Nat.toDigits 10 n ++ rest) = .ok (.int n, rest) := by
  have hne : (Nat.toDigits 10 n).isEmpty = false := by simp
  obtain ⟨c, cs, heq, hc⟩ := exists_cons_toDigits n
  unfold number
  split
  · next negative tail hsign =>
    split at hsign
    · next tail' htail =>
      rw [heq] at htail
      rw [(List.cons.inj htail).1] at hc
      cases hc
    · cases hsign
      simp only [wholePart_toDigits n h, hne, fraction?_of_ends h, exponent?_of_ends h,
        Option.map_none, Option.getD_none, Option.isNone_none, Bool.and_self, if_true,
        if_neg (length_toDigits_le (by decide) hn), value_toDigits, Bool.false_eq_true, if_false]

theorem scalar_digit {cs : List Char} (hc : Numeral.isDigit c) :
    scalar (c :: cs) = number (c :: cs) := by
  have hne : ∀ d, Numeral.isDigit d = false → d ≠ c := by
    rintro d hd rfl
    rw [hc] at hd
    cases hd
  simp [scalar, words, hne 'n' rfl, hne 't' rfl, hne 'f' rfl, hne 'N' rfl, hne 'I' rfl, hne '-' rfl]

theorem scalar_neg_digit {cs : List Char} (hc : Numeral.isDigit c) :
    scalar ('-' :: c :: cs) = number ('-' :: c :: cs) := by
  have hne : 'I' ≠ c := by
    rintro rfl
    cases hc
  simp [scalar, words, hne]

theorem scalar_int {i : Int} (hi : i.natAbs < Nat.pow 10 Numeral.limit) (h : Ends rest) :
    scalar ((toString i).toList ++ rest) = .ok (.int i, rest) := by
  cases i with
  | ofNat n =>
    have hn : n < Nat.pow 10 Numeral.limit := hi
    obtain ⟨c, cs, heq, hc⟩ := exists_cons_toDigits n
    have htext : (toString (Int.ofNat n)).toList = Nat.toDigits 10 n := by
      simp [Int.toString_eq_repr, Int.repr_eq_if, Nat.toList_repr]
    have hscalar : scalar (Nat.toDigits 10 n ++ rest) = number (Nat.toDigits 10 n ++ rest) := by
      rw [heq, List.cons_append, scalar_digit hc]
    rw [htext, hscalar, number_nat hn h]
    rfl
  | negSucc n =>
    have hn : n + 1 < Nat.pow 10 Numeral.limit := hi
    obtain ⟨c, cs, heq, hc⟩ := exists_cons_toDigits (n + 1)
    have htext : (toString (Int.negSucc n)).toList = '-' :: Nat.toDigits 10 (n + 1) := by
      simp [Int.toString_eq_repr, Int.repr_eq_if, Nat.toList_repr]
    have hscalar : scalar ('-' :: (Nat.toDigits 10 (n + 1) ++ rest)) =
        number ('-' :: (Nat.toDigits 10 (n + 1) ++ rest)) := by
      rw [heq, List.cons_append, scalar_neg_digit hc]
    rw [htext, List.cons_append, hscalar, number_neg hn h]
    rfl

end Revocation.Json
