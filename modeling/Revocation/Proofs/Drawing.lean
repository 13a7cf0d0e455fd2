import Revocation.Proofs.Powers

/-!
Elements drawn from hashes, whatever the hash function is. The search ends at the first square
beyond the identity; there is such a square if and only if the modulus is 5 or more, so modulo 3 and
modulo 4 nothing is ever drawn. What is drawn is a square below the modulus, and modulo a prime it
can be inverted. Main statements: `square_le_identity`, `hashToElement_eq_ok`, `generate_eq_ok` and
`draws_of_five_le`.
-/
namespace Revocation

namespace Modulus

/-- That a byte string is of the length that digests have. -/
def IsDigest (bs : Bytes) : Prop := bs.length = 64

instance (bs : Bytes) : Decidable (IsDigest bs) := inferInstanceAs (Decidable (_ = _))

/-- The square that two digests give. -/
def square (m : Modulus) (first second : Bytes) : Int :=
  m.power ((Bytes.toNat (first ++ second) : Int) % m.value) 2

/-- How many trials there are: one for each value of the counter. -/
def trials : Nat := 1 <<< 32

variable {m : Modulus} {hash : Bytes → Bytes} {data first second : Bytes} {spare counter n : Nat}
  {a : Int} {e : Failure}

theorem trial_eq_square (m : Modulus) (hash : Bytes → Bytes) (data : Bytes) (n : Nat) :
    m.trial hash data n = m.square (hash (block n 0 data)) (hash (block n 1 data)) := rfl

theorem square_eq_combine (m : Modulus) (first second : Bytes) :
    m.square first second = m.combine (Bytes.toNat (first ++ second) % m.value)
      (Bytes.toNat (first ++ second) % m.value) := by
  rw [square, power_eq_emod, pow_two, combine]

/-- Modulo 3 and modulo 4 all squares are 0 or 1. -/
theorem square_le_identity (h : m.value < 5) (first second : Bytes) :
    m.square first second ≤ 1 := by
  have hthree := m.three_le
  rw [square_eq_combine, combine]
  generalize (Bytes.toNat (first ++ second) : Int) = x
  by_cases hm : m.value = 3
  · have hcases : x % 3 = 0 ∨ x % 3 = 1 ∨ x % 3 = 2 := by omega
    rw [hm]
    push_cast
    rcases hcases with h | h | h <;> simp [h]
  · have hm : m.value = 4 := by omega
    have hcases : x % 4 = 0 ∨ x % 4 = 1 ∨ x % 4 = 2 ∨ x % 4 = 3 := by omega
    rw [hm]
    push_cast
    rcases hcases with h | h | h | h <;> simp [h]

/-- From 5 on the square of 2 is beyond the identity. -/
theorem exists_square (h : 5 ≤ m.value) :
    ∃ first second, IsDigest first ∧ IsDigest second ∧ m.square first second = 4 := by
  have hlength : (Bytes.ofNat 128 2).length = 128 := Bytes.length_ofNat 128 2
  have hvalue : Bytes.toNat (Bytes.ofNat 128 2) = 2 := Bytes.toNat_ofNat 128 2
  refine ⟨(Bytes.ofNat 128 2).take 64, (Bytes.ofNat 128 2).drop 64, ?_, ?_, ?_⟩
  · rw [IsDigest, List.length_take, hlength]
    rfl
  · rw [IsDigest, List.length_drop, hlength]
  · rw [square_eq_combine, List.take_append_drop, hvalue, combine]
    have htwo : (2 : Int) % m.value = 2 := Int.emod_eq_of_lt (by decide) (by omega)
    rw [Nat.cast_ofNat, htwo]
    exact Int.emod_eq_of_lt (by decide) (by omega)

theorem exists_square_iff (m : Modulus) :
    (∃ first second, IsDigest first ∧ IsDigest second ∧ 1 < m.square first second) ↔
      5 ≤ m.value := by
  constructor
  · rintro ⟨first, second, -, -, hsquare⟩
    by_contra hm
    have hle := square_le_identity (m := m) (by omega) first second
    omega
  · intro hm
    obtain ⟨first, second, hfirst, hsecond, hsquare⟩ := exists_square hm
    exact ⟨first, second, hfirst, hsecond, by omega⟩

/-! The search. -/

theorem firstSquare?_eq_none :
    m.firstSquare? hash data spare counter = none ↔
      ∀ i < spare, m.trial hash data (counter + i) ≤ 1 := by
  induction spare generalizing counter with
  | zero => simp [firstSquare?]
  | succ spare ih =>
    rw [firstSquare?]
    by_cases hfound : 1 < m.trial hash data counter
    · simp only [if_pos hfound]
      constructor
      · nofun
      · intro h
        exact absurd hfound (not_lt.mpr (h 0 (Nat.succ_pos spare)))
    · simp only [if_neg hfound, ih]
      constructor
      · intro h i hi
        cases i with
        | zero => exact not_lt.mp hfound
        | succ i => simpa [Nat.add_assoc, Nat.add_comm 1 i] using h i (by omega)
      · intro h i hi
        simpa [Nat.add_assoc, Nat.add_comm 1 i] using h (i + 1) (by omega)

/-- What is found is the first square beyond the identity. -/
theorem firstSquare?_eq_some :
    m.firstSquare? hash data spare counter = some a ↔
      ∃ i < spare, m.trial hash data (counter + i) = a ∧ 1 < a ∧
        ∀ j < i, m.trial hash data (counter + j) ≤ 1 := by
  induction spare generalizing counter with
  | zero => simp [firstSquare?]
  | succ spare ih =>
    rw [firstSquare?]
    by_cases hfound : 1 < m.trial hash data counter
    · simp only [if_pos hfound]
      constructor
      · intro h
        cases h
        exact ⟨0, Nat.succ_pos spare, rfl, hfound, nofun⟩
      · rintro ⟨i, -, ha, -, hbefore⟩
        cases i with
        | zero => exact congrArg some ha
        | succ i => exact absurd hfound (not_lt.mpr (hbefore 0 (Nat.succ_pos i)))
    · simp only [if_neg hfound, ih]
      have hshift (i : Nat) : counter + 1 + i = counter + (i + 1) := by omega
      constructor
      · intro ⟨i, hi, ha, hlarge, hbefore⟩
        refine ⟨i + 1, by omega, hshift i ▸ ha, hlarge, fun j hj => ?_⟩
        cases j with
        | zero => exact not_lt.mp hfound
        | succ j => exact hshift j ▸ hbefore j (by omega)
      · intro ⟨i, hi, ha, hlarge, hbefore⟩
        cases i with
        | zero => exact absurd (ha ▸ hlarge) hfound
        | succ i =>
          refine ⟨i, by omega, hshift i ▸ ha, hlarge, fun j hj => ?_⟩
          exact hshift j ▸ hbefore (j + 1) (by omega)

theorem hashToElement_eq_ok :
    m.hashToElement hash data = .ok a ↔ ∃ i < trials, m.trial hash data i = a ∧ 1 < a ∧
      ∀ j < i, m.trial hash data j ≤ 1 := by
  have hspare : 1 <<< 32 = trials := rfl
  have hsome := @firstSquare?_eq_some m hash data trials 0 a
  simp only [Nat.zero_add] at hsome
  rw [hashToElement, ← hsome, hspare]
  cases m.firstSquare? hash data trials 0 <;> simp

theorem hashToElement_eq_error :
    m.hashToElement hash data = .error e ↔
      (∀ i < trials, m.trial hash data i ≤ 1) ∧ e = .hashesExhausted := by
  have hspare : 1 <<< 32 = trials := rfl
  have hnone := @firstSquare?_eq_none m hash data trials 0
  simp only [Nat.zero_add] at hnone
  rw [hashToElement, ← hnone, hspare]
  cases m.firstSquare? hash data trials 0 <;> simp [eq_comm]

theorem exists_hashToElement_iff :
    (∃ a, m.hashToElement hash data = .ok a) ↔ ∃ i < trials, 1 < m.trial hash data i := by
  constructor
  · intro ⟨a, ha⟩
    obtain ⟨i, hi, rfl, hlarge, -⟩ := hashToElement_eq_ok.mp ha
    exact ⟨i, hi, hlarge⟩
  · intro ⟨i, hi, hlarge⟩
    cases h : m.hashToElement hash data with
    | ok a => exact ⟨a, rfl⟩
    | error e =>
      have hle := (hashToElement_eq_error.mp h).1 i hi
      omega

/-- Modulo 3 and modulo 4 all counters are tried in vain. -/
theorem hashToElement_of_lt_five (hm : m.value < 5) :
    m.hashToElement hash data = .error .hashesExhausted :=
  hashToElement_eq_error.mpr ⟨fun _ _ => square_le_identity hm _ _, rfl⟩

/-! What is drawn. -/

/-- That an element is a square below the modulus and neither 0 nor 1. -/
structure IsDrawn (m : Modulus) (a : Int) : Prop where
  identity_lt : 1 < a
  lt : a < m.value
  square : ∃ r, m.combine r r = a

theorem isDrawn_of_hashToElement (h : m.hashToElement hash data = .ok a) : m.IsDrawn a := by
  obtain ⟨i, -, rfl, hlarge, -⟩ := hashToElement_eq_ok.mp h
  rw [trial_eq_square] at hlarge ⊢
  rw [square_eq_combine] at hlarge ⊢
  exact ⟨hlarge, m.combine_lt _ _, _, rfl⟩

/-- Modulo a prime all elements but 0 have no factor in common with it. -/
theorem IsDrawn.isCoprime (h : m.IsDrawn a) (hm : m.value.Prime) : IsCoprime a m.value := by
  obtain ⟨hpos, hlt, -⟩ := h
  have hcoprime : Nat.Coprime m.value a.natAbs :=
    Nat.coprime_of_lt_prime (by omega) (by omega) hm
  rw [Int.isCoprime_iff_gcd_eq_one, Int.gcd, Int.natAbs_natCast]
  exact hcoprime.symm

end Modulus

namespace Tails

open Modulus

variable {m : Modulus} {h : Hashing} {id : String} {capacity : Int} {entries : List Int}

theorem generate_eq_ok : generate m h id capacity = .ok entries ↔ 0 < capacity ∧
    (List.range capacity.toNat).mapM (fun i => entry m h id (i + 1)) = .ok entries := by
  rw [generate]
  by_cases hcapacity : capacity < 1
  · simp only [if_pos hcapacity]
    constructor
    · nofun
    · intro ⟨hpos, _⟩
      omega
  · simp only [if_neg hcapacity]
    constructor
    · intro hentries
      exact ⟨by omega, hentries⟩
    · intro ⟨_, hentries⟩
      exact hentries

/-- Entries can be generated if for each index there is a square beyond the identity. -/
theorem exists_generate_iff : (∃ entries, generate m h id capacity = .ok entries) ↔
    0 < capacity ∧ ∀ i : Nat, 1 ≤ i → i ≤ capacity →
      ∃ n < trials, 1 < m.trial h.elements (label id i) n := by
  simp only [generate_eq_ok, exists_and_left, exists_mapM_iff, List.mem_range]
  refine and_congr_right fun hcapacity => ?_
  simp only [entry, exists_hashToElement_iff]
  constructor
  · intro hall i hi hle
    obtain ⟨k, rfl⟩ := Nat.exists_eq_add_of_le' hi
    exact hall k (by omega)
  · intro hall k hk
    exact hall (k + 1) (by omega) (by omega)

theorem length_of_generate (hentries : generate m h id capacity = .ok entries) :
    (entries.length : Int) = capacity := by
  obtain ⟨hcapacity, hmap⟩ := generate_eq_ok.mp hentries
  rw [length_of_mapM_eq_ok hmap, List.length_range]
  omega

theorem isDrawn_of_generate (hentries : generate m h id capacity = .ok entries) :
    ∀ a ∈ entries, m.IsDrawn a := by
  intro a ha
  obtain ⟨-, hmap⟩ := generate_eq_ok.mp hentries
  obtain ⟨i, -, hi⟩ := (mem_of_mapM hmap).2 a ha
  exact isDrawn_of_hashToElement hi

/-- With a hash whose digests give the square of 2 entries are generated for every registry. -/
theorem exists_hash_generate (hm : 5 ≤ m.value) : ∃ hash : Bytes → Bytes,
    (∀ bs, IsDigest (hash bs)) ∧ ∀ contents id capacity, 0 < capacity →
      ∃ entries, generate m ⟨hash, contents⟩ id capacity = .ok entries := by
  obtain ⟨first, second, hfirst, hsecond, hsquare⟩ := exists_square hm
  -- The fifth byte of what is hashed is the number of the block.
  refine ⟨fun bs => if bs[4]? = some 0 then first else second, fun bs => ?_, ?_⟩
  · by_cases hblock : bs[4]? = some 0
    · simpa only [if_pos hblock] using hfirst
    · simpa only [if_neg hblock] using hsecond
  · intro contents id capacity hcapacity
    refine exists_generate_iff.mpr ⟨hcapacity, fun i _ _ => ⟨0, by decide, ?_⟩⟩
    have hblocks (number : UInt8) : (block 0 number (label id i))[4]? = some number := by
      have hlength := Bytes.length_ofNat 4 0
      rw [block, List.getElem?_append_right (by omega), hlength]
      rfl
    rw [trial_eq_square]
    simp only [hblocks]
    simp [hsquare]

end Tails

open Modulus Tails

/-- What drawing elements comes to, for each hash function. -/
structure Draws (m : Modulus) : Prop where
  /-- The search can end: there are digests whose square is beyond the identity. -/
  exit : ∃ first second, IsDigest first ∧ IsDigest second ∧ 1 < m.square first second
  ends : ∀ hash data, (∃ a, m.hashToElement hash data = .ok a) ↔
    ∃ i < trials, 1 < m.square (hash (block i 0 data)) (hash (block i 1 data))
  drawn : ∀ hash data a, m.hashToElement hash data = .ok a → m.IsDrawn a
  coprime : m.value.Prime → ∀ hash data a, m.hashToElement hash data = .ok a →
    Int.gcd a m.value = 1
  /-- Entries can be generated, for registries of any name and size. -/
  produced : ∃ hash : Bytes → Bytes, (∀ bs, IsDigest (hash bs)) ∧ ∀ contents id capacity,
    0 < capacity → ∃ entries, generate m ⟨hash, contents⟩ id capacity = .ok entries
  generated : ∀ h id capacity, (∃ entries, generate m h id capacity = .ok entries) ↔
    0 < capacity ∧ ∀ i : Nat, 1 ≤ i → i ≤ capacity →
      ∃ a, m.hashToElement h.elements (label id i) = .ok a
  /-- All that is generated modulo a prime can be taken out of an accumulator again. -/
  revocable : m.value.Prime → ∀ h id capacity entries, generate m h id capacity = .ok entries →
    (entries.length : Int) = capacity ∧ ∀ a ∈ entries, ∃ b, m.inverse a = .ok b

/-- From 5 on the search for an element can end, and what it ends with can be inverted modulo a
prime. -/
theorem draws_of_five_le {m : Modulus} (hm : 5 ≤ m.value) : Draws m := by
  constructor
  case exit => exact (exists_square_iff m).mpr hm
  case ends => exact fun _ _ => exists_hashToElement_iff
  case drawn => exact fun _ _ _ => isDrawn_of_hashToElement
  case coprime =>
    intro hprime hash data a ha
    exact Int.isCoprime_iff_gcd_eq_one.mp ((isDrawn_of_hashToElement ha).isCoprime hprime)
  case produced => exact exists_hash_generate hm
  case generated =>
    intro h id capacity
    simp only [exists_generate_iff, exists_hashToElement_iff]
  case revocable =>
    intro hprime h id capacity entries hentries
    refine ⟨length_of_generate hentries, fun a ha => ?_⟩
    exact exists_inverse_iff.mpr ((isDrawn_of_generate hentries a ha).isCoprime hprime)

/-- Modulo 11 and with digests of ones only, the entries of a registry of three. -/
theorem draws_of_five_le_eleven :
    let m : Modulus := ⟨11, by decide⟩
    let h : Hashing := ⟨fun _ => List.replicate 64 1, fun bs => bs⟩
    5 ≤ m.value ∧ m.value.Prime ∧ generate m h "reg" 3 = .ok [4, 4, 4] ∧
      (∀ a ∈ [4, 4, 4], m.IsDrawn a ∧ ∃ b, m.inverse a = .ok b) ∧ Draws m := by
  intro m h
  have hm : 5 ≤ m.value := by decide
  have hprime : m.value.Prime := by decide
  have hentries : generate m h "reg" 3 = .ok [4, 4, 4] := by decide +kernel
  have hdraws := draws_of_five_le hm
  refine ⟨hm, hprime, hentries, fun a ha => ?_, hdraws⟩
  exact ⟨isDrawn_of_generate hentries a ha, (hdraws.revocable hprime h "reg" 3 _ hentries).2 a ha⟩

/-- 3 is taken for a modulus, and no digests let a search end there. -/
theorem hashesExhausted_three :
    let m : Modulus := ⟨3, by decide⟩
    Modulus.ofInt? 3 = some m ∧ m.value.Prime ∧ (∀ first second, m.square first second ≤ 1) ∧
      (∀ hash data, m.hashToElement hash data = .error .hashesExhausted) ∧
      ∀ h id capacity, ¬ ∃ entries, generate m h id capacity = .ok entries := by
  intro m
  have hm : m.value < 5 := by decide
  refine ⟨rfl, by decide, square_le_identity hm, fun _ _ => hashToElement_of_lt_five hm, ?_⟩
  intro h id capacity hentries
  obtain ⟨hcapacity, hall⟩ := exists_generate_iff.mp hentries
  obtain ⟨i, -, hlarge⟩ := hall 1 le_rfl (by omega)
  exact absurd hlarge (not_lt.mpr (square_le_identity hm _ _))

end Revocation
