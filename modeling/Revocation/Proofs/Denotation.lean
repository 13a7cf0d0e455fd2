import Mathlib.Algebra.Order.Field.Rat
import Mathlib.Tactic.NormNum
import Revocation.Proofs.EntryCache
import Revocation.Proofs.Boundary
import Revocation.Witness.Wire

/-!
The whole numbers that values denote, and what is read of them. Texts are read for exactly what they
spell; of numbers the fraction is cut off, and a text or an object is read item by item where an
array should stand, so that the indices read can be others than are written. Main statements:
`readInt_eq_ok`, `denotes_of_index` and `readings_denote`.
-/
namespace Revocation

namespace Text

variable {c : Char} {d : Nat}

theorem digit?_of_isBlank (h : isBlank c) : digit? c = none := by
  have hblank : ∀ n ∈ List.range' 9 5 ++ List.range' 0x2000 11 ++
      [0x20, 0x85, 0xa0, 0x1680, 0x2028, 0x2029, 0x202f, 0x205f, 0x3000],
      zeros.find? (fun z => z ≤ n && n < z + 10) = none := by
    decide
  rw [digit?, hblank c.toNat, Option.map_none]
  simp only [isBlank, Bool.or_eq_true, Bool.and_eq_true, decide_eq_true_eq,
    List.contains_iff_mem] at h
  rw [List.mem_append, List.mem_append, List.mem_range'_1, List.mem_range'_1]
  refine h.imp (fun h => h.imp (fun h => ?_) fun h => ?_) id
  · omega
  · omega

theorem not_isBlank_of_digit? (h : digit? c = some d) : isBlank c = false := by
  refine Bool.eq_false_iff.mpr fun hblank => ?_
  rw [digit?_of_isBlank hblank] at h
  cases h

end Text

namespace Numeral

variable {c : Char} {cs taken rest back sign : List Char} {d : Nat} {ds : List Nat} {s : String}
  {n : Int} {negative : Bool}

/-- What may follow a digit: digits, each with or without an underscore in front. -/
inductive More : List Char → List Nat → Prop
  | none : More [] []
  | digit {c : Char} {d : Nat} {cs : List Char} {ds : List Nat} (hc : Text.digit? c = some d)
      (hmore : More cs ds) : More (c :: cs) (d :: ds)
  | apart {c : Char} {d : Nat} {cs : List Char} {ds : List Nat} (hc : Text.digit? c = some d)
      (hmore : More cs ds) : More ('_' :: c :: cs) (d :: ds)

/-- What may stand before the digits, and whether the number is a negative one then. -/
inductive Sign : List Char → Bool → Prop
  | none : Sign [] false
  | plus : Sign ['+'] false
  | minus : Sign ['-'] true

/-- The text spells the whole number: a row of digits, not too long, with a sign in front or none,
and blanks around it. -/
inductive Spells (s : String) : Int → Prop
  | intro {front sign cs back : List Char} {c : Char} {d : Nat} {ds : List Nat} {negative : Bool}
      (hs : s.toList = front ++ (sign ++ (c :: cs ++ back))) (hfront : ∀ b ∈ front, Text.isBlank b)
      (hsign : Sign sign negative) (hc : Text.digit? c = some d) (hmore : More cs ds)
      (hlimit : (d :: ds).length ≤ limit) (hback : ∀ b ∈ back, Text.isBlank b) :
      Spells s (if negative then -(value (d :: ds) : Int) else value (d :: ds))

/-- No digit can follow in this place. -/
def Stops (rest : List Char) : Prop := ∀ c ∈ rest.head?, Text.digit? c = none ∧ c ≠ '_'

theorem digitRun_eq_some (afterDigit : Bool) (h : digitRun afterDigit cs = some (ds, rest)) :
    if afterDigit then ∃ taken, cs = taken ++ rest ∧ More taken ds
    else ∃ c taken d ds', cs = c :: taken ++ rest ∧ ds = d :: ds' ∧ Text.digit? c = some d ∧
      More taken ds' := by
  induction cs generalizing afterDigit ds with
  | nil =>
    cases afterDigit <;> cases h
    exact ⟨[], rfl, .none⟩
  | cons c cs ih =>
    rw [digitRun] at h
    split at h
    · next d hd =>
      obtain ⟨⟨ds', rest'⟩, hrun, h⟩ := Option.map_eq_some_iff.mp h
      cases h
      obtain ⟨taken, rfl, hmore⟩ := ih true hrun
      cases afterDigit
      · exact ⟨c, taken, d, ds', rfl, rfl, hd, hmore⟩
      · exact ⟨c :: taken, rfl, .digit hd hmore⟩
    · cases afterDigit
      · cases h
      · simp only [Bool.not_true, Bool.false_eq_true, if_false] at h
        split at h
        · next hc =>
          obtain ⟨c', taken, d, ds', rfl, rfl, hd, hmore⟩ := ih false h
          exact ⟨'_' :: c' :: taken, hc ▸ rfl, .apart hd hmore⟩
        · cases h
          exact ⟨[], rfl, .none⟩

theorem digitRun_of_more (hmore : More taken ds) (hrest : Stops rest) :
    digitRun true (taken ++ rest) = some (ds, rest) := by
  induction hmore with
  | none =>
    cases rest with
    | nil => rfl
    | cons c cs =>
      obtain ⟨hdigit, hne⟩ := hrest c rfl
      rw [List.nil_append, digitRun, hdigit]
      simp only [Bool.not_true, Bool.false_eq_true, if_false, if_neg hne]
  | digit hc hmore ih =>
    rw [List.cons_append, digitRun, hc]
    simp only [ih, Option.map_some]
  | apart hc hmore ih =>
    have hunderscore : Text.digit? '_' = none := by decide
    rw [List.cons_append, List.cons_append, digitRun, hunderscore]
    simp only [Bool.not_true, Bool.false_eq_true, if_false, if_true]
    rw [digitRun, hc]
    simp only [ih, Option.map_some]

theorem stops_of_blank (hback : ∀ b ∈ back, Text.isBlank b) : Stops back := by
  intro c hc
  have hblank := hback c (List.mem_of_mem_head? hc)
  refine ⟨Text.digit?_of_isBlank hblank, fun hunderscore => ?_⟩
  rw [hunderscore] at hblank
  exact absurd hblank (by decide)

theorem exists_sign (cs : List Char) : ∃ sign, cs = sign ++ (signed cs).2 ∧ Sign sign (signed cs).1 := by
  rw [signed.eq_def]
  split
  · exact ⟨['-'], rfl, .minus⟩
  · exact ⟨['+'], rfl, .plus⟩
  · exact ⟨[], rfl, .none⟩

theorem signed_of_digit (hsign : Sign sign negative) (hc : Text.digit? c = some d) (cs : List Char) :
    signed (sign ++ c :: cs) = (negative, c :: cs) := by
  cases hsign with
  | plus => rfl
  | minus => rfl
  | none =>
    rw [List.nil_append, signed.eq_def]
    split
    · next heq =>
      cases heq
      rw [show Text.digit? '-' = none by decide] at hc
      cases hc
    · next heq =>
      cases heq
      rw [show Text.digit? '+' = none by decide] at hc
      cases hc
    · rfl

theorem dropWhile_of_digit (hsign : Sign sign negative) (hc : Text.digit? c = some d)
    (cs : List Char) :
    (sign ++ c :: cs).dropWhile Text.isBlank = sign ++ c :: cs := by
  have hblank := Text.not_isBlank_of_digit? hc
  cases hsign with
  | plus => rfl
  | minus => rfl
  | none => rw [List.nil_append, List.dropWhile_cons_of_neg (by simp [hblank])]

/-- A text is read for the whole number that it spells, and for none if it spells none. -/
theorem readInt_eq_ok : readInt s = .ok n ↔ Spells s n := by
  constructor
  · intro h
    rw [readInt] at h
    obtain ⟨sign, hsigned, hsign⟩ := exists_sign (s.toList.dropWhile Text.isBlank)
    have hs := List.takeWhile_append_dropWhile (p := Text.isBlank) (l := s.toList)
    split at h
    next negative cs heq =>
    rw [heq] at hsigned hsign
    split at h
    · cases h
    · next ds rest hrun =>
      obtain ⟨c, taken, d, ds', rfl, rfl, hc, hmore⟩ := digitRun_eq_some false hrun
      split at h
      · cases h
      · next hlimit =>
        split at h
        · next hback =>
          cases h
          rw [hsigned] at hs
          exact .intro hs.symm (List.all_eq_true.mp List.all_takeWhile) hsign hc hmore
            (Nat.not_lt.mp hlimit) (List.all_eq_true.mp hback)
        · cases h
  · rintro ⟨hs, hfront, hsign, hc, hmore, hlimit, hback⟩
    have hrun := digitRun_of_more hmore (stops_of_blank hback)
    rw [readInt, hs, List.dropWhile_append_of_pos hfront, List.cons_append,
      dropWhile_of_digit hsign hc, signed_of_digit hsign hc]
    simp only [digitRun, hc, hrun, Option.map_some, if_neg (Nat.not_lt.mpr hlimit),
      List.all_eq_true.mpr hback, if_true]

end Numeral

namespace Binary64

variable {x : Binary64} {n : Int}

/-- The number that a double stands for. -/
def value? : Binary64 → Option ℚ
  | .finite negative m e => some ((if negative then -1 else 1) * m * 2 ^ e)
  | _ => none

/-- Nothing is cut off a whole number. -/
theorem truncate?_of_value? (h : x.value? = some (n : ℚ)) : x.truncate? = some n := by
  cases x with
  | nan | infinity => cases h
  | finite negative m e =>
    -- The mantissa times a power of two, without the sign.
    have hunsigned : (m : ℚ) * 2 ^ e = ((if negative then -n else n : Int) : ℚ) := by
      have hvalue := Option.some.inj h
      cases negative
      · simpa using hvalue
      · simpa using congrArg Neg.neg hvalue
    rw [truncate?]
    suffices hcut : (if 0 ≤ e then m <<< e.toNat else m >>> (-e).toNat : Nat) =
        (if negative then -n else n : Int) by
      cases negative <;> simp_all
    split
    · next he =>
      obtain ⟨k, rfl⟩ := Int.eq_ofNat_of_zero_le he
      rw [Int.toNat_natCast, Nat.shiftLeft_eq]
      exact_mod_cast hunsigned
    · next he =>
      obtain ⟨k, rfl⟩ : ∃ k : Nat, e = -k := ⟨(-e).toNat, by omega⟩
      rw [Int.neg_neg, Int.toNat_natCast, Nat.shiftRight_eq_div_pow]
      rw [zpow_neg, zpow_natCast, mul_inv_eq_iff_eq_mul₀ (pow_ne_zero k two_ne_zero)]
        at hunsigned
      have hwhole : (m : Int) = (if negative then -n else n) * 2 ^ k := by exact_mod_cast hunsigned
      rw [Int.natCast_ediv, hwhole, Int.natCast_pow]
      exact Int.mul_ediv_cancel _ (pow_ne_zero k two_ne_zero)

end Binary64

namespace Json

variable {v w : Json} {n : Int} {s t : IndexSet}

/-- The value denotes the whole number: it is one, a truth value, or a text that spells one. -/
inductive Denotes : Json → Int → Prop
  | bool (b : Bool) : Denotes (.bool b) (if b then 1 else 0)
  | int (n : Int) : Denotes (.int n) n
  | real {x : Binary64} {n : Int} (hx : x.value? = some (n : ℚ)) : Denotes (.real x) n
  | string {s : String} {n : Int} (hs : Numeral.Spells s n) : Denotes (.string s) n

/-- A number with a fraction, or an infinite one. -/
def IsUneven (v : Json) : Prop :=
  ∃ x, v = .real x ∧ (∀ negative, x ≠ .nan negative) ∧ ∀ n : Int, x.value? ≠ some (n : ℚ)

/-- The value denotes the set: it is empty, or an array of which every item denotes a number, and
these are the set's. -/
inductive DenotesSet : Json → IndexSet → Prop
  | empty {v : Json} (hv : v.isEmpty) : DenotesSet v ∅
  | items {vs : List Json} {s : IndexSet} (hvs : ∀ v ∈ vs, ∃ n, Denotes v n)
      (hs : ∀ n, n ∈ s ↔ ∃ v ∈ vs, Denotes v n) : DenotesSet (.array vs) s

/-- Values that are read for a set though they denote none: an array with an uneven number in it, and
what has other items than an array. -/
inductive IsLoose : Json → Prop
  | items {vs : List Json} {v : Json} (hv : v ∈ vs) (huneven : v.IsUneven) : IsLoose (.array vs)
  | string {s : String} (hs : s ≠ "") : IsLoose (.string s)
  | object {ms : Members} (hms : ms ≠ []) : IsLoose (.object ms)

theorem index_of_denotes (h : Denotes v n) : Record.index v = .ok n := by
  cases h with
  | bool b => rfl
  | int n => rfl
  | string hs => rw [Record.index, Record.numeral, Numeral.readInt_eq_ok.mpr hs]
  | @real x n hx =>
    have htruncate := Binary64.truncate?_of_value? hx
    cases x with
    | nan | infinity => cases hx
    | finite negative m e =>
      rw [Record.index, Record.wholePart, htruncate]
      rfl

theorem Denotes.unique {n' : Int} (h : Denotes v n) (h' : Denotes v n') : n = n' :=
  Except.ok.inj ((index_of_denotes h).symm.trans (index_of_denotes h'))

theorem Denotes.not_isUneven (h : Denotes v n) : ¬ v.IsUneven := by
  rintro ⟨x, rfl, -, hnone⟩
  cases h with
  | real hx => exact hnone n hx

/-- An index that is read is the one denoted, but for numbers that are not whole. -/
theorem denotes_of_index (hv : ¬ v.IsUneven) (h : Record.index v = .ok n) : Denotes v n := by
  cases v with
  | null | array _ | object _ => cases h
  | bool b =>
    cases h
    exact .bool b
  | int k =>
    cases h
    exact .int n
  | string s =>
    rw [Record.index, Record.numeral] at h
    split at h <;> cases h
    exact .string (Numeral.readInt_eq_ok.mp ‹_›)
  | real x =>
    have hnan (negative : Bool) : x ≠ .nan negative := by
      rintro rfl
      cases h
    obtain ⟨k, hk⟩ : ∃ k : Int, x.value? = some (k : ℚ) := by
      by_contra hnone
      exact hv ⟨x, rfl, hnan, fun k hk => hnone ⟨k, hk⟩⟩
    have hdenotes : Denotes (.real x) k := .real hk
    cases (index_of_denotes hdenotes).symm.trans h
    exact hdenotes

/-- The indices of items that each denote a number are the numbers denoted. -/
theorem mem_of_indices {vs : List Json} {is : List Int} (hvs : ∀ v ∈ vs, ∃ n, Denotes v n)
    (h : vs.mapM Record.index = .ok is) : n ∈ is ↔ ∃ v ∈ vs, Denotes v n := by
  obtain ⟨hitems, hindices⟩ := mem_of_mapM h
  constructor
  · intro hn
    obtain ⟨u, hu, hindex⟩ := hindices n hn
    obtain ⟨k, hk⟩ := hvs u hu
    cases (index_of_denotes hk).symm.trans hindex
    exact ⟨u, hu, hk⟩
  · rintro ⟨u, hu, hn⟩
    obtain ⟨k, hk, hindex⟩ := hitems u hu
    cases (index_of_denotes hn).symm.trans hindex
    exact hk

theorem denotesSet_of_indexSet (hv : ¬ v.IsLoose) (h : Record.indexSet v = .ok s) :
    DenotesSet v s := by
  rw [Record.indexSet] at h
  split at h
  · cases h
    exact .empty ‹_›
  · next hempty =>
    obtain ⟨vs, hvs, h⟩ := bind_eq_ok.mp h
    obtain ⟨is, his, h⟩ := bind_eq_ok.mp h
    cases h
    cases v with
    | null | bool _ | int _ | real _ => cases hvs
    | string t =>
      refine (hv (.string fun ht => ?_)).elim
      rw [ht] at hempty
      exact hempty rfl
    | object ms =>
      refine (hv (.object fun hms => ?_)).elim
      rw [hms] at hempty
      exact hempty rfl
    | array us =>
      cases hvs
      have hdenotes (u : Json) (hu : u ∈ vs) : ∃ n, Denotes u n := by
        obtain ⟨n, -, hn⟩ := (mem_of_mapM his).1 u hu
        exact ⟨n, denotes_of_index (fun huneven => hv (.items hu huneven)) hn⟩
      exact .items hdenotes fun n => IndexSet.mem_ofList.trans (mem_of_indices hdenotes his)

/-- Whatever denotes a set is read for it. -/
theorem indexSet_of_denotesSet (h : DenotesSet v s) : Record.indexSet v = .ok s := by
  cases h with
  | empty hv => exact if_pos hv
  | @items vs _ hvs hs =>
    by_cases hempty : vs = []
    · have hnone : s = ∅ := by
        refine IndexSet.ext_mem fun n => ?_
        rw [hs, hempty]
        simp
      rw [hempty, hnone]
      rfl
    · have hfilled : ¬ (Json.array vs).isEmpty := by simpa [isEmpty] using hempty
      rw [Record.indexSet, if_neg hfilled]
      cases his : vs.mapM Record.index with
      | error e =>
        obtain ⟨u, hu, herror⟩ := mapM_eq_error his
        obtain ⟨n, hn⟩ := hvs u hu
        cases (index_of_denotes hn).symm.trans herror
      | ok is =>
        have hset : IndexSet.ofList is = s := IndexSet.ext_mem fun n =>
          (IndexSet.mem_ofList.trans (mem_of_indices hvs his)).trans (hs n).symm
        refine bind_eq_ok.mpr ⟨vs, rfl, bind_eq_ok.mpr ⟨is, his, ?_⟩⟩
        exact congrArg Except.ok hset

end Json

open Json Http

/-- A record is read for a delta between the sets that its members denote, unless they are loose; or
it is malformed; or it lets out an infinite index. -/
theorem Delta.ofJson_cases (m : Modulus) (v : Json) :
    (∃ d, ofJson m v = .ok d ∧
      (¬ (Record.memberOrNull v "issued").IsLoose →
        DenotesSet (Record.memberOrNull v "issued") d.issued) ∧
      (¬ (Record.memberOrNull v "revoked").IsLoose →
        DenotesSet (Record.memberOrNull v "revoked") d.revoked)) ∨
    (∃ cause, ofJson m v = .error (.inconsistent cause)) ∨
    ∃ c, Escapes v c ∧ ofJson m v = .error (.malformed c) := by
  cases h : ofJson m v with
  | error e =>
    rcases ofJson_eq_error h with ⟨cause, rfl⟩ | ⟨c, hc, rfl⟩
    · exact .inr (.inl ⟨cause, rfl⟩)
    · exact .inr (.inr ⟨c, hc, rfl⟩)
  | ok d =>
    obtain ⟨-, -, hissued, hrevoked⟩ := ofJson_eq_ok.mp h
    exact .inl ⟨d, rfl, fun hloose => denotesSet_of_indexSet hloose hissued,
      fun hloose => denotesSet_of_indexSet hloose hrevoked⟩

/-- The record of a delta: its checkpoints in text, and what denotes its sets. -/
structure Delta.Denoted (m : Modulus) (v : Json) (d : Delta Int) : Prop where
  source : ∃ x, Record.member v "from" = .ok x ∧ m.decodeValue x = .ok d.source
  target : ∃ x, Record.member v "to" = .ok x ∧ m.decodeValue x = .ok d.target
  issued : DenotesSet (Record.memberOrNull v "issued") d.issued
  revoked : DenotesSet (Record.memberOrNull v "revoked") d.revoked

theorem Delta.ofJson_of_denoted {m : Modulus} {v : Json} {d : Delta Int} (h : Denoted m v d) :
    ofJson m v = .ok d :=
  ofJson_eq_ok.mpr ⟨h.source, h.target, indexSet_of_denotesSet h.issued,
    indexSet_of_denotesSet h.revoked⟩

/-- The record of a witness: what denotes its index, and its value in text. -/
structure Witness.Denoted (m : Modulus) (v : Json) (w : Witness) : Prop where
  index : ∃ x, Record.member v "rev_idx" = .ok x ∧ Denotes x w.index
  omega : ∃ x, Record.member v "omega" = .ok x ∧ m.decodeValue x = .ok w.omega

theorem Witness.ofJson_of_denoted {m : Modulus} {v : Json} {w : Witness} (h : Denoted m v w) :
    ofJson m v = .ok w := by
  obtain ⟨x, hx, hdenotes⟩ := h.index
  obtain ⟨y, hy, homega⟩ := h.omega
  exact bind_eq_ok.mpr ⟨x, hx, bind_eq_ok.mpr ⟨_, index_of_denotes hdenotes,
    bind_eq_ok.mpr ⟨y, hy, bind_eq_ok.mpr ⟨_, homega, rfl⟩⟩⟩⟩

theorem Witness.exists_index_of_ofJson {m : Modulus} {v : Json} {w : Witness}
    (h : ofJson m v = .ok w) :
    ∃ x, Record.member v "rev_idx" = .ok x ∧ Record.index x = .ok w.index := by
  obtain ⟨x, hx, h⟩ := bind_eq_ok.mp h
  obtain ⟨i, hi, h⟩ := bind_eq_ok.mp h
  obtain ⟨_, -, h⟩ := bind_eq_ok.mp h
  obtain ⟨_, -, h⟩ := bind_eq_ok.mp h
  cases h
  exact ⟨x, hx, hi⟩

theorem RemoteTails.records_of_judge {m : Modulus} {i a : Int} {r : Response}
    (h : judge m i r = .ok a) : Records m i a r.body := by
  rw [judge] at h
  split at h
  · cases h
  · split at h
    · cases h
    · exact entryOf_eq_ok (reported_eq_ok.mp h)

/-- What is read where indices stand is what is denoted there: in records of deltas, unless a member
is loose, and in records of witnesses and answers with entries, unless the number is uneven. Records
of which all members denote something are read. -/
theorem readings_denote {σ : Type} (m : Modulus) (service : Service) (server : Server σ) :
    (∀ v, (∃ d, Delta.ofJson m v = .ok d ∧
        (¬ (Record.memberOrNull v "issued").IsLoose →
          DenotesSet (Record.memberOrNull v "issued") d.issued) ∧
        (¬ (Record.memberOrNull v "revoked").IsLoose →
          DenotesSet (Record.memberOrNull v "revoked") d.revoked)) ∨
      (∃ cause, Delta.ofJson m v = .error (.inconsistent cause)) ∨
      ∃ c, Delta.Escapes v c ∧ Delta.ofJson m v = .error (.malformed c)) ∧
    (∀ v d, Delta.Denoted m v d → Delta.ofJson m v = .ok d) ∧
    (∀ v w, Witness.ofJson m v = .ok w →
      ∃ x, Record.member v "rev_idx" = .ok x ∧ (¬ x.IsUneven → Denotes x w.index)) ∧
    (∀ v w, Witness.Denoted m v w → Witness.ofJson m v = .ok w) ∧
    ∀ i a t t', RemoteTails.ask m service server i t = .ok a t' →
      ∃ status body v x, service.Gives server (toString i) none (.response status body) ∧
        Json.parseBody body = .ok v ∧ Record.member v "index" = .ok x ∧
        (¬ x.IsUneven → Denotes x i) := by
  refine ⟨Delta.ofJson_cases m, fun v d => Delta.ofJson_of_denoted, fun v w h => ?_,
    fun v w => Witness.ofJson_of_denoted, fun i a t t' h => ?_⟩
  · obtain ⟨x, hx, hi⟩ := Witness.exists_index_of_ofJson h
    exact ⟨x, hx, fun heven => denotes_of_index heven hi⟩
  · obtain ⟨r, hgives, hjudge⟩ := exchange_eq_ok h
    obtain ⟨v, x, _, hv, hx, hi, -⟩ := (RemoteTails.records_of_judge hjudge).document
    exact ⟨r.status, r.body, v, x, hgives, hv, hx, fun heven => denotes_of_index heven hi⟩

/-- Modulo 11: a record whose issued indices are written in three ways and whose revoked ones are
zero, a witness with a signed index, and an answer with a text for its index. -/
theorem readings_denote_eleven :
    let m : Modulus := ⟨11, by decide⟩
    let two : Json := .real (.finite false 4503599627370496 (-51))
    let issued : Json := .array [.string " 3 ", .bool true, two]
    let v : Json := .object [("from", .string "02"), ("to", .string "0A"), ("issued", issued),
      ("revoked", .int 0)]
    let d : Delta Int := ⟨2, 10, .ofList [1, 2, 3], ∅, by decide⟩
    let w : Json := .object [("rev_idx", .string "+5"), ("omega", .string "04")]
    let service : Service := ⟨"https://example.com/registry-1", 0x4014000000000000, true, .standard⟩
    let server : Server Unit := fun _ _ =>
      (.response 200 (Bytes.ofText "\x7b\"index\":\"1\",\"entry\":\"03\"\x7d"), ())
    Delta.Denoted m v d ∧ Delta.ofJson m v = .ok d ∧ ¬ issued.IsLoose ∧ DenotesSet issued d.issued ∧
      Witness.Denoted m w ⟨5, 4⟩ ∧ Witness.ofJson m w = .ok ⟨5, 4⟩ ∧ Denotes (.string "+5") 5 ∧
      ∃ status body u x, service.Gives server (toString 1) none (.response status body) ∧
        Json.parseBody body = .ok u ∧ Record.member u "index" = .ok x ∧
        (¬ x.IsUneven → Denotes x 1) := by
  intro m two issued v d w service server
  have hthree : Denotes (.string " 3 ") 3 := .string (Numeral.readInt_eq_ok.mp (by decide +kernel))
  have hone : Denotes (.bool true) 1 := .bool true
  have htwo : Denotes two 2 := by
    refine .real (congrArg some ?_)
    norm_num
  have hissued : DenotesSet issued d.issued := by
    refine .items ?_ fun n => ?_
    · simp only [List.forall_mem_cons]
      exact ⟨⟨3, hthree⟩, ⟨1, hone⟩, ⟨2, htwo⟩, List.forall_mem_nil _⟩
    · have hmem : n ∈ d.issued ↔ n ∈ [1, 2, 3] := IndexSet.mem_ofList
      rw [hmem]
      simp only [List.mem_cons, List.not_mem_nil, or_false]
      constructor
      · rintro (rfl | rfl | rfl)
        · exact ⟨_, .inr (.inl rfl), hone⟩
        · exact ⟨_, .inr (.inr rfl), htwo⟩
        · exact ⟨_, .inl rfl, hthree⟩
      · rintro ⟨u, rfl | rfl | rfl, hn⟩
        · exact .inr (.inr (hn.unique hthree))
        · exact .inl (hn.unique hone)
        · exact .inr (.inl (hn.unique htwo))
  have hfive : Denotes (.string "+5") 5 := .string (Numeral.readInt_eq_ok.mp (by decide +kernel))
  have hv : Delta.Denoted m v d :=
    ⟨⟨_, rfl, by decide +kernel⟩, ⟨_, rfl, by decide +kernel⟩, hissued, .empty rfl⟩
  have hw : Witness.Denoted m w ⟨5, 4⟩ := ⟨⟨_, rfl, hfive⟩, ⟨_, rfl, by decide +kernel⟩⟩
  have htight : ¬ issued.IsLoose := by
    show ¬ (Json.array [.string " 3 ", .bool true, two]).IsLoose
    rintro (⟨hmem, huneven⟩ | _ | _)
    simp only [List.mem_cons, List.not_mem_nil, or_false] at hmem
    rcases hmem with rfl | rfl | rfl
    · exact hthree.not_isUneven huneven
    · exact hone.not_isUneven huneven
    · exact htwo.not_isUneven huneven
  have houtcome : (RemoteTails.ask m service server 1).outcome (.start .system ()) = .ok 3 := by
    decide +kernel
  obtain ⟨hread, hdeltas, hindices, hwitnesses, hanswers⟩ := readings_denote m service server
  have hok := hdeltas v d hv
  obtain ⟨x, hx, hdenotes⟩ := hindices w _ (hwitnesses w _ hw)
  cases hx
  obtain ⟨t', hask⟩ := Session.outcome_eq_ok.mp houtcome
  refine ⟨hv, hok, htight, ?_, hw, hwitnesses w _ hw, hdenotes hfive.not_isUneven,
    hanswers 1 3 _ t' hask⟩
  rcases hread v with ⟨d', hd', hset, -⟩ | ⟨cause, herror⟩ | ⟨c, -, herror⟩
  · cases hok.symm.trans hd'
    exact hset htight
  · cases hok.symm.trans herror
  · cases hok.symm.trans herror

/-- A fraction is cut off without a word. -/
theorem ofJson_of_fraction :
    let m : Modulus := ⟨1000003, by decide⟩
    let oneAndAHalf : Json := .real (.finite false 6755399441055744 (-52))
    let v : Json := .object [("from", .string "000005"), ("to", .string "000007"),
      ("issued", .array [oneAndAHalf])]
    let d : Delta Int := ⟨5, 7, .ofList [1], ∅, by decide⟩
    Delta.ofJson m v = .ok d ∧ ¬ DenotesSet (Record.memberOrNull v "issued") d.issued := by
  intro m oneAndAHalf v d
  have hmember : Record.memberOrNull v "issued" = .array [oneAndAHalf] := rfl
  refine ⟨by decide +kernel, fun h => ?_⟩
  rw [hmember] at h
  cases h with
  | items hvs hs =>
    obtain ⟨n, hn⟩ := hvs _ List.mem_cons_self
    change Denotes (.real (.finite false 6755399441055744 (-52))) n at hn
    cases hn with
    | real hx =>
      have htwice : ((3 : Int) : ℚ) = ((2 * n : Int) : ℚ) := by
        have hvalue := Option.some.inj hx
        push_cast
        rw [← hvalue]
        norm_num
      have : (3 : Int) = 2 * n := by exact_mod_cast htwice
      omega

end Revocation
