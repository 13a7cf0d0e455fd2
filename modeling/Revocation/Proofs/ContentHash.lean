import Revocation.Proofs.JsonDocument
import Revocation.Proofs.Wire
import Revocation.Tails

/-!
What the hash of a tails list fixes. The hashed lines are of one width, and base64 text keeps every
bit of a digest, so lists with one hash are the same list unless the digests of their contents
collide. Main statements: `Base64Url.encode_inj`, `line_inj` and `eq_of_hash`.
-/
namespace Revocation

namespace Base64Url

variable {count n n' : Nat} {a b c a' b' c' : UInt8} {bs bs' : Bytes}

theorem alphabet_inj : ∀ i < 64, ∀ j < 64, alphabet.getD i 'A' = alphabet.getD j 'A' → i = j := by
  decide +kernel

/-- How far down the bits of the four characters stand. -/
def places : List Nat := [18, 12, 6, 0]

theorem quartet_eq (hn : n < 1 <<< 24) (count : Nat) : quartet count n =
    (places.take count).map fun k => alphabet.getD (n >>> k % 64) 'A' := by
  have hfirst : n >>> 18 % 64 = n >>> 18 := by
    rw [Nat.shiftRight_eq_div_pow]
    omega
  rw [quartet, places, List.map_take, List.map_take]
  simp only [List.map_cons, List.map_nil, hfirst, Nat.shiftRight_zero]

theorem length_quartet (h : count ≤ 4) (n : Nat) : (quartet count n).length = count := by
  simp [quartet, h]

/-- A character fixes the bits that it stands for. -/
theorem quartet_inj (hn : n < 1 <<< 24) (hn' : n' < 1 <<< 24)
    (h : quartet count n = quartet count n') :
    ∀ k ∈ places.take count, n >>> k % 64 = n' >>> k % 64 := by
  rw [quartet_eq hn, quartet_eq hn'] at h
  intro k hk
  have hk := List.map_inj_left.mp h k hk
  exact alphabet_inj _ (Nat.mod_lt _ (by decide)) _ (Nat.mod_lt _ (by decide)) hk

/-- The 24 bits of three bytes. -/
def word (a b c : UInt8) : Nat := a.toNat <<< 16 + b.toNat <<< 8 + c.toNat

theorem word_eq (a b c : UInt8) : word a b c = a.toNat * 65536 + b.toNat * 256 + c.toNat := by
  simp only [word, Nat.shiftLeft_eq, Nat.reducePow]

theorem word_lt (a b c : UInt8) : word a b c < 1 <<< 24 := by
  have ha := a.toNat_lt
  have hb := b.toNat_lt
  have hc := c.toNat_lt
  rw [word_eq]
  omega

/-- Two characters fix a byte, three fix two and four fix three. -/
theorem bytes_inj (h : quartet count (word a b c) = quartet count (word a' b' c')) :
    (2 ≤ count → a = a') ∧ (3 ≤ count → b = b') ∧ (4 ≤ count → c = c') := by
  have hbits := quartet_inj (word_lt a b c) (word_lt a' b' c') h
  have ha := a.toNat_lt
  have hb := b.toNat_lt
  have hc := c.toNat_lt
  have ha' := a'.toNat_lt
  have hb' := b'.toNat_lt
  have hc' := c'.toNat_lt
  rw [word_eq, word_eq] at hbits
  have hmem {k l : Nat} (hk : places[l]? = some k) (hl : l < count) : k ∈ places.take count :=
    List.mem_of_getElem? (by rw [List.getElem?_take, if_pos hl, hk])
  refine ⟨fun h2 => ?_, fun h3 => ?_, fun h4 => ?_⟩
  · have h18 := hbits 18 (hmem (l := 0) rfl (by omega))
    have h12 := hbits 12 (hmem (l := 1) rfl (by omega))
    exact UInt8.toNat_inj.mp (by omega)
  · have h12 := hbits 12 (hmem (l := 1) rfl (by omega))
    have h6 := hbits 6 (hmem (l := 2) rfl (by omega))
    exact UInt8.toNat_inj.mp (by omega)
  · have h6 := hbits 6 (hmem (l := 2) rfl (by omega))
    have h0 := hbits 0 (hmem (l := 3) rfl (by omega))
    exact UInt8.toNat_inj.mp (by omega)

theorem write_one (a : UInt8) : write [a] = quartet 2 (word a 0 0) := by
  rw [write, word, UInt8.toNat_zero, Nat.zero_shiftLeft, Nat.add_zero]

theorem write_two (a b : UInt8) : write [a, b] = quartet 3 (word a b 0) := by
  rw [write, word, UInt8.toNat_zero, Nat.add_zero]

theorem write_three (a b c : UInt8) (rest : Bytes) :
    write (a :: b :: c :: rest) = quartet 4 (word a b c) ++ write rest := by
  rw [write, word]

theorem length_write (bs : Bytes) : (write bs).length = (4 * bs.length + 2) / 3 := by
  induction bs using write.induct with
  | case1 => rfl
  | case2 a => rw [write_one, length_quartet (by decide), List.length_singleton]
  | case3 a b => rw [write_two, length_quartet (by decide), List.length_cons, List.length_singleton]
  | case4 a b c rest ih =>
    rw [write_three, List.length_append, length_quartet (by decide), ih, List.length_cons,
      List.length_cons, List.length_cons]
    omega

/-- Texts of one length are of as many bytes, and fix them three at a time. -/
theorem write_inj (h : write bs = write bs') : bs = bs' := by
  have hlength : bs'.length = bs.length := by
    have hwritten := congrArg List.length h
    rw [length_write, length_write] at hwritten
    omega
  induction bs using write.induct generalizing bs' with
  | case1 => exact (List.length_eq_zero_iff.mp hlength).symm
  | case2 a =>
    obtain ⟨a', rfl⟩ := List.length_eq_one_iff.mp hlength
    rw [write_one, write_one] at h
    rw [(bytes_inj h).1 (by decide)]
  | case3 a b =>
    match bs', hlength with
    | [a', b'], _ =>
      rw [write_two, write_two] at h
      obtain ⟨ha, hb, -⟩ := bytes_inj h
      rw [ha (by decide), hb (by decide)]
  | case4 a b c rest ih =>
    match bs', hlength with
    | a' :: b' :: c' :: rest', hlength =>
      rw [write_three, write_three] at h
      obtain ⟨hquartet, hrest⟩ := List.append_inj h
        ((length_quartet (by decide) _).trans (length_quartet (by decide) _).symm)
      obtain ⟨ha, hb, hc⟩ := bytes_inj hquartet
      rw [ha (by decide), hb (by decide), hc (by decide), ih hrest (by simpa using hlength)]

theorem encode_inj (h : encode bs = encode bs') : bs = bs' := write_inj (String.ofList_inj.mp h)

end Base64Url

/-- Blocks of one length are told apart in what they make together. -/
theorem flatMap_inj_of_length {α β : Type} {f : α → List β} {n : Nat} {as bs : List α}
    (hlength : ∀ a, (f a).length = n + 1) (hf : ∀ a ∈ as, ∀ b ∈ bs, f a = f b → a = b)
    (h : as.flatMap f = bs.flatMap f) : as = bs := by
  have hne (a : α) (cs : List β) : f a ++ cs ≠ [] := by
    intro hnil
    have hzero := congrArg List.length (List.append_eq_nil_iff.mp hnil).1
    rw [hlength, List.length_nil] at hzero
    cases hzero
  induction as generalizing bs with
  | nil =>
    cases bs with
    | nil => rfl
    | cons b bs => exact (hne b _ h.symm).elim
  | cons a as ih =>
    cases bs with
    | nil => exact (hne a _ h).elim
    | cons b bs =>
      rw [List.flatMap_cons, List.flatMap_cons] at h
      obtain ⟨hab, hrest⟩ := List.append_inj h ((hlength a).trans (hlength b).symm)
      rw [hf a List.mem_cons_self b List.mem_cons_self hab, ih (fun x hx y hy =>
        hf x (List.mem_cons_of_mem a hx) y (List.mem_cons_of_mem b hy)) hrest]

theorem Hex.plain_write (bs : Bytes) : Json.Plain (Hex.write bs) := by
  have hdigit : ∀ n < 16, 0 < (Hex.digit n).toNat ∧ (Hex.digit n).toNat < 0x80 := by decide
  intro c hc
  obtain ⟨b, -, hc⟩ := List.mem_flatMap.mp hc
  have hb := b.toNat_lt
  simp only [Hex.pair, List.mem_cons, List.not_mem_nil, or_false] at hc
  rcases hc with rfl | rfl
  · exact hdigit _ (by omega)
  · exact hdigit _ (by omega)

namespace Tails

variable {m : Modulus} {h : Hashing} {as bs : List Int} {a b : Int} {digest : String}

/-- An element on a line of its own. -/
def line (m : Modulus) (a : Int) : Bytes := Bytes.ofText (m.written a) ++ [10]

theorem ofText_written (m : Modulus) (a : Int) : Bytes.ofText (m.written a) =
    (Hex.write (Bytes.ofNat m.width a.toNat)).map fun c => UInt8.ofNat c.toNat := by
  rw [Modulus.written, Hex.encode, Json.ofText_plain (Hex.plain_write _)]

theorem length_line (m : Modulus) (a : Int) : (line m a).length = 2 * m.width + 1 := by
  rw [line, ofText_written, List.length_append, List.length_map, Hex.length_write,
    Bytes.length_ofNat, List.length_singleton]

theorem line_inj (ha : m.IsElement a) (hb : m.IsElement b) (hline : line m a = line m b) :
    a = b := by
  have hwritten : m.written a = m.written b := Bytes.ofText_inj (List.append_cancel_right hline)
  have hdecode := Modulus.decode_written ha
  rw [hwritten, Modulus.decode_written hb] at hdecode
  exact (Except.ok.inj hdecode).symm

theorem contents_eq_ok (has : ∀ a ∈ as, m.IsElement a) :
    contents m as = .ok (as.flatMap (line m)) := by
  rw [contents, mapM_eq_ok fun a ha => Modulus.encode_eq_ok (has a ha)]
  exact congrArg Except.ok (List.flatMap_map _ _ as)

theorem hash_eq_ok (has : ∀ a ∈ as, m.IsElement a) :
    hash m h as = .ok (Base64Url.encode (h.contents (as.flatMap (line m)))) := by
  rw [hash, contents_eq_ok has]
  rfl

/-- The digest tells the contents of two lists apart. -/
def Separates (h : Hashing) (m : Modulus) (as bs : List Int) : Prop :=
  ∀ x y, contents m as = .ok x → contents m bs = .ok y → h.contents x = h.contents y → x = y

/-- Lists of elements with one hash are one list, unless their digests collide. -/
theorem eq_of_hash (has : ∀ a ∈ as, m.IsElement a) (hbs : ∀ b ∈ bs, m.IsElement b)
    (hseparates : Separates h m as bs) (ha : hash m h as = .ok digest)
    (hb : hash m h bs = .ok digest) : as = bs := by
  rw [hash_eq_ok has] at ha
  rw [hash_eq_ok hbs] at hb
  have hdigest := Base64Url.encode_inj ((Except.ok.inj ha).trans (Except.ok.inj hb).symm)
  exact flatMap_inj_of_length (length_line m)
    (fun a hmem b hmem' => line_inj (has a hmem) (hbs b hmem'))
    (hseparates _ _ (contents_eq_ok has) (contents_eq_ok hbs) hdigest)

end Tails
end Revocation
