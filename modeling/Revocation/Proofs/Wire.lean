import Revocation.Delta.Wire
import Revocation.Proofs.Ledger

/-!
What goes over the wire and comes back: elements between zero and the modulus, and deltas between
such elements. Main statements: `decode_written` and `ofJson_record`.
-/
namespace Revocation

theorem Hex.decode_encode (bs : Bytes) : Hex.decode (Hex.encode bs) = .ok bs := by
  have hascii : ∀ c, c ∈ Hex.write bs → ¬ 127 < c.toNat := by
    intro c hc
    obtain ⟨b, -, hc⟩ := List.mem_flatMap.mp hc
    have hb := b.toNat_lt
    simp only [Hex.pair, List.mem_cons, List.not_mem_nil, or_false] at hc
    rcases hc with rfl | rfl
    · exact Nat.not_lt.mpr (Hex.digit_toNat_lt (by omega))
    · exact Nat.not_lt.mpr (Hex.digit_toNat_lt (by omega))
  have hnone : (Hex.write bs).findIdx? (127 < ·.toNat) = none := by
    simpa [List.findIdx?_eq_none_iff] using hascii
  rw [Hex.decode, Hex.encode, String.toList_ofList, hnone]
  simp only [Hex.read_write]

theorem bind_eq_ok {ε α β : Type} {x : Except ε α} {f : α → Except ε β} {b : β} :
    (x >>= f) = .ok b ↔ ∃ a, x = .ok a ∧ f a = .ok b := by
  cases x <;> simp [bind, Except.bind]

theorem bind_eq_error {ε α β : Type} {x : Except ε α} {f : α → Except ε β} {e : ε} :
    (x >>= f) = .error e ↔ x = .error e ∨ ∃ a, x = .ok a ∧ f a = .error e := by
  cases x <;> simp [bind, Except.bind]

theorem mapM_congr {ε α β : Type} {f g : α → Except ε β} {as : List α}
    (h : ∀ a ∈ as, f a = g a) : as.mapM f = as.mapM g := by
  induction as with
  | nil => rfl
  | cons a as ih =>
    obtain ⟨ha, has⟩ := List.forall_mem_cons.mp h
    rw [List.mapM_cons, List.mapM_cons, ha, ih has]

/-- A list is read whole if and only if it is read item by item. -/
theorem mapM_eq_ok_iff {ε α β : Type} {f : α → Except ε β} {as : List α} {bs : List β} :
    as.mapM f = .ok bs ↔ as.map f = bs.map .ok := by
  induction as generalizing bs with
  | nil => simp [pure, Except.pure, eq_comm]
  | cons a as ih =>
    rw [List.mapM_cons]
    constructor
    · intro h
      obtain ⟨b, hb, h⟩ := bind_eq_ok.mp h
      obtain ⟨rest, hrest, h⟩ := bind_eq_ok.mp h
      cases h
      rw [List.map_cons, List.map_cons, hb, ih.mp hrest]
    · intro h
      cases bs with
      | nil => cases h
      | cons b bs =>
        obtain ⟨hb, hrest⟩ := List.cons.inj h
        rw [hb, ih.mpr hrest]
        rfl

theorem mapM_eq_ok {ε α β : Type} {f : α → Except ε β} {g : α → β} {as : List α}
    (h : ∀ a, a ∈ as → f a = .ok (g a)) : as.mapM f = .ok (as.map g) := by
  rw [mapM_eq_ok_iff, List.map_map]
  exact List.map_congr_left h

theorem mapM_eq_error {ε α β : Type} {f : α → Except ε β} {as : List α} {e : ε}
    (h : as.mapM f = .error e) : ∃ a, a ∈ as ∧ f a = .error e := by
  induction as with
  | nil => cases h
  | cons a as ih =>
    rw [List.mapM_cons] at h
    rcases bind_eq_error.mp h with ha | ⟨b, -, h⟩
    · exact ⟨a, List.mem_cons_self, ha⟩
    · rcases bind_eq_error.mp h with has | ⟨bs, -, h⟩
      · obtain ⟨c, hc, hf⟩ := ih has
        exact ⟨c, List.mem_cons_of_mem a hc, hf⟩
      · cases h

theorem mem_of_mapM {ε α β : Type} {f : α → Except ε β} {as : List α} {bs : List β}
    (h : as.mapM f = .ok bs) :
    (∀ a ∈ as, ∃ b ∈ bs, f a = .ok b) ∧ ∀ b ∈ bs, ∃ a ∈ as, f a = .ok b := by
  have hmap := mapM_eq_ok_iff.mp h
  constructor
  · intro a ha
    have hmem : f a ∈ bs.map .ok := hmap ▸ List.mem_map_of_mem ha
    obtain ⟨b, hb, heq⟩ := List.mem_map.mp hmem
    exact ⟨b, hb, heq.symm⟩
  · intro b hb
    have hmem : .ok b ∈ as.map f := hmap ▸ List.mem_map_of_mem hb
    exact List.mem_map.mp hmem

/-- A list can be read whole if each of its items can. -/
theorem exists_mapM_iff {ε α β : Type} {f : α → Except ε β} {as : List α} :
    (∃ bs, as.mapM f = .ok bs) ↔ ∀ a ∈ as, ∃ b, f a = .ok b := by
  constructor
  · intro ⟨bs, h⟩ a ha
    obtain ⟨b, -, hb⟩ := (mem_of_mapM h).1 a ha
    exact ⟨b, hb⟩
  · intro h
    induction as with
    | nil => exact ⟨[], rfl⟩
    | cons a as ih =>
      obtain ⟨ha, has⟩ := List.forall_mem_cons.mp h
      obtain ⟨b, hb⟩ := ha
      obtain ⟨bs, hbs⟩ := ih has
      refine ⟨b :: bs, ?_⟩
      rw [List.mapM_cons, hb, hbs]
      rfl

theorem length_of_mapM_eq_ok {ε α β : Type} {f : α → Except ε β} {as : List α} {bs : List β}
    (h : as.mapM f = .ok bs) : bs.length = as.length := by
  have hlength := congrArg List.length (mapM_eq_ok_iff.mp h)
  rw [List.length_map, List.length_map] at hlength
  exact hlength.symm

theorem getElem?_of_mapM {ε α β : Type} {f : α → Except ε β} {as : List α} {bs : List β} {i : Nat}
    {a : α} (h : as.mapM f = .ok bs) (ha : as[i]? = some a) :
    ∃ b, bs[i]? = some b ∧ f a = .ok b := by
  have hitem := congrArg (fun rs => rs[i]?) (mapM_eq_ok_iff.mp h)
  rw [List.getElem?_map, List.getElem?_map, ha] at hitem
  obtain ⟨b, hb, heq⟩ := Option.map_eq_some_iff.mp hitem.symm
  exact ⟨b, hb, heq.symm⟩

namespace Modulus

variable {m : Modulus} {a : Int}

def IsElement (m : Modulus) (a : Int) : Prop := 0 < a ∧ a < m.value

instance : Decidable (m.IsElement a) := inferInstanceAs (Decidable (_ ∧ _))

def written (m : Modulus) (a : Int) : String := Hex.encode (Bytes.ofNat m.width a.toNat)

theorem value_lt_pow_width (m : Modulus) : m.value < Nat.pow 256 m.width := by
  change m.value < 256 ^ m.width
  have hbits : m.value < 2 ^ m.bits := Nat.lt_log2_self
  have hwidth : m.bits ≤ 8 * m.width := by
    rw [width]
    omega
  calc m.value < 2 ^ m.bits := hbits
    _ ≤ 2 ^ (8 * m.width) := Nat.pow_le_pow_right (by decide) hwidth
    _ = 256 ^ m.width := by rw [Nat.pow_mul]

theorem length_written (m : Modulus) (a : Int) : (m.written a).toList.length = 2 * m.width := by
  rw [written, Hex.encode, String.toList_ofList, Hex.length_write, Bytes.length_ofNat]

theorem encode_eq_ok (h : m.IsElement a) : m.encode a = .ok (m.written a) := by
  have hw := m.value_lt_pow_width
  obtain ⟨h0, hm⟩ := h
  rw [encode, if_neg (by omega), if_neg (by omega), written]

theorem decode_written (h : m.IsElement a) : m.decode (m.written a) = .ok a := by
  have hw := m.value_lt_pow_width
  obtain ⟨h0, hm⟩ := h
  have hn : a.toNat % Nat.pow 256 m.width = a.toNat := Nat.mod_eq_of_lt (by omega)
  simp only [decode, written, Hex.decode_encode, Bytes.toNat_ofNat, hn]
  rw [if_pos (by omega), Int.toNat_of_nonneg (by omega)]

theorem isElement_of_decode {s : String} (h : m.decode s = .ok a) : m.IsElement a := by
  rw [decode] at h
  split at h
  · cases h
  · dsimp only at h
    split at h
    · next hn =>
      cases h
      exact ⟨by omega, by omega⟩
    · cases h

theorem isElement_of_decodeValue {v : Json} (h : m.decodeValue v = .ok a) : m.IsElement a := by
  rw [decodeValue.eq_def] at h
  split at h
  · exact isElement_of_decode h
  · cases h

end Modulus

namespace Delta

variable {m : Modulus} {d : Delta Int} {ds : List (Delta Int)}

theorem indexSet_indices (s : IndexSet) : Record.indexSet (indices s) = .ok s := by
  have hmap : (s.toList.map Json.int).mapM Record.index = .ok s.toList := by
    rw [List.mapM_map]
    have h : s.toList.mapM (Record.index ∘ Json.int) = .ok (s.toList.map id) :=
      mapM_eq_ok fun _ _ => rfl
    rwa [List.map_id] at h
  have hs := s.ofList_toList
  rw [Record.indexSet, indices]
  split
  · next h =>
    have hnil : s.toList = [] := by simpa [Json.isEmpty] using h
    rw [← hs, hnil]
    rfl
  · simp only [Record.items, bind, Except.bind, hmap]
    rw [hs]
    rfl

/-- A delta whose ends can be written. -/
def IsWritable (m : Modulus) (d : Delta Int) : Prop := m.IsElement d.source ∧ m.IsElement d.target

def record (m : Modulus) (d : Delta Int) : Json := .object [
  ("from", .string (m.written d.source)), ("to", .string (m.written d.target)),
  ("issued", indices d.issued), ("revoked", indices d.revoked)]

theorem toJson_eq_ok (h : d.IsWritable m) : d.toJson m = .ok (record m d) := by
  rw [toJson, Modulus.encode_eq_ok h.1, Modulus.encode_eq_ok h.2]
  rfl

theorem ofJson_record (h : d.IsWritable m) : ofJson m (record m d) = .ok d := by
  have hparts : partsOf m (record m d) = .ok (d.source, d.target, d.issued, d.revoked) := by
    have hsource := Modulus.decode_written h.1
    have htarget := Modulus.decode_written h.2
    have hissued := indexSet_indices d.issued
    have hrevoked := indexSet_indices d.revoked
    simp only [partsOf, record, Record.member, Record.memberOrNull, Json.Members.getOrNull,
      Json.Members.get?, List.lookup_cons, String.reduceBEq, Option.getD_some, Modulus.decodeValue,
      bind, Except.bind, hsource, htarget, hissued, hrevoked]
    rfl
  rw [ofJson, hparts]
  exact ofSets_eq_ok d.disjoint

theorem mapM_ofJson_record (h : ∀ d, d ∈ ds → d.IsWritable m) :
    (ds.map (record m)).mapM (ofJson m) = .ok ds := by
  rw [List.mapM_map]
  have hds : ds.mapM (ofJson m ∘ record m) = .ok (ds.map id) :=
    mapM_eq_ok fun d hd => ofJson_record (h d hd)
  rwa [List.map_id] at hds

end Delta
end Revocation
