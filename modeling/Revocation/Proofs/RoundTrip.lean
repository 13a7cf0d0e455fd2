import Revocation.Proofs.Boundary
import Revocation.Proofs.RefreshedCredential

/-!
What is written is read back, and what can be read can be written. A record in whichever form it
came is thereby written in one form, and in that form comes back unchanged. Main statement:
`readings_of_writings`.
-/
namespace Revocation

variable {m : Modulus}

namespace Delta

variable {v : Json} {d : Delta Int}

/-- A record read and written again. -/
def rewritten (m : Modulus) (v : Json) : Except Failure Json := do
  (← ofJson m v).toJson m

theorem isWritable_of_ofJson (h : ofJson m v = .ok d) : d.IsWritable m := by
  obtain ⟨⟨_, -, hsource⟩, ⟨_, -, htarget⟩, -⟩ := ofJson_eq_ok.mp h
  exact ⟨Modulus.isElement_of_decodeValue hsource, Modulus.isElement_of_decodeValue htarget⟩

theorem rewritten_of_ofJson (h : ofJson m v = .ok d) : rewritten m v = .ok (record m d) := by
  rw [rewritten, h]
  exact toJson_eq_ok (isWritable_of_ofJson h)

end Delta

namespace Witness

variable {v : Json} {w : Witness}

theorem toJson_eq_ok (h : m.IsElement w.omega) : w.toJson m =
    .ok (.object [("rev_idx", .int w.index), ("omega", .string (m.written w.omega))]) := by
  rw [toJson, Modulus.encode_eq_ok h]
  rfl

theorem isElement_of_ofJson (h : ofJson m v = .ok w) : m.IsElement w.omega := by
  obtain ⟨_, -, h⟩ := bind_eq_ok.mp h
  obtain ⟨i, -, h⟩ := bind_eq_ok.mp h
  obtain ⟨_, -, h⟩ := bind_eq_ok.mp h
  obtain ⟨omega, homega, h⟩ := bind_eq_ok.mp h
  cases h
  exact Modulus.isElement_of_decodeValue homega

end Witness

namespace Binding

open Json

variable {ms ns : Members} {b : RevocableBinding} {id : String}

/-- The members of a revocable binding read and written again. -/
def rewritten (m : Modulus) (ms : Members) : Except Failure Members := do
  payload m (← parse m ms true)

theorem exists_of_parse {x : Binding} (h : parse m ms true = .ok x) : ∃ b, x = .revocable b := by
  obtain ⟨_, -, h⟩ := bind_eq_ok.mp h
  obtain ⟨b, -, h⟩ := bind_eq_ok.mp h
  cases h
  exact ⟨b, rfl⟩

theorem carried_merge (m : Modulus) (b : RevocableBinding) (id : String) (ms : Members) :
    Carried m b id (ms.merge (record m b id)) := by
  have hnodup : ((record m b id).map Prod.fst).Nodup := by
    rw [map_fst_record]
    decide
  exact fun p hp => Members.get?_merge hnodup hp

theorem carried_record (m : Modulus) (b : RevocableBinding) (id : String) :
    Carried m b id (record m b id) := by
  intro p hp
  simp only [record, List.mem_cons, List.not_mem_nil, or_false] at hp
  rcases hp with rfl | rfl | rfl <;> rfl

theorem rewritten_of_parse (hb : Writable m b id) (h : parse m ms true = .ok (.revocable b)) :
    rewritten m ms = .ok (record m b id) := by
  rw [rewritten, h]
  exact payload_eq_ok hb

/-- The members of a binding that is none. -/
def nulls : Members := fields.map fun name => (name, .null)

theorem payload_nonRevocable (m : Modulus) : payload m .nonRevocable = .ok nulls := rfl

theorem getOrNull_merge_nulls (ms : Members) {name : String} (hn : name ∈ fields) :
    (ms.merge nulls).getOrNull name = .null := by
  have hnodup : (nulls.map Prod.fst).Nodup := by decide
  have hget : (ms.merge nulls).get? name = some .null :=
    Members.get?_merge hnodup (List.mem_map_of_mem (f := fun name => (name, Json.null)) hn)
  rw [Members.getOrNull, hget]
  rfl

theorem present_merge_nulls (ms : Members) : present (ms.merge nulls) = [] := by
  rw [present, List.filter_eq_nil_iff]
  intro name hn
  rw [getOrNull_merge_nulls ms hn]
  decide

theorem absent_merge_nulls (ms : Members) : absent (ms.merge nulls) = fields := by
  rw [absent, List.filter_eq_self]
  intro name hn
  rw [getOrNull_merge_nulls ms hn]
  rfl

end Binding

open Binding in
/-- Deltas, witnesses and bindings whose elements can be written are read back as they were, bindings
also from among other members. Whatever is read can be written, and what is written then is read and
written again without a change. The members of a binding that is none are read as such, and are no
revocable binding. -/
theorem readings_of_writings (m : Modulus) :
    (∀ d : Delta Int, d.IsWritable m →
      ∃ v, d.toJson m = .ok v ∧ Delta.ofJson m v = .ok d) ∧
    (∀ w : Witness, m.IsElement w.omega →
      ∃ v, w.toJson m = .ok v ∧ Witness.ofJson m v = .ok w) ∧
    (∀ b id, Writable m b id →
      ∃ ns, payload m (.revocable b) = .ok ns ∧ parse m ns true = .ok (.revocable b) ∧
        (∀ ms, parse m (Json.Members.merge ms ns) true = .ok (.revocable b)) ∧
        ∀ ms, (∀ p ∈ ns, Json.Members.get? p.1 ms = some p.2) →
          parse m ms true = .ok (.revocable b)) ∧
    (∀ v d, Delta.ofJson m v = .ok d → d.IsWritable m ∧
      ∃ v', Delta.rewritten m v = .ok v' ∧ Delta.ofJson m v' = .ok d ∧
        Delta.rewritten m v' = .ok v') ∧
    (∀ v w, Witness.ofJson m v = .ok w → m.IsElement w.omega ∧
      ∃ v', w.toJson m = .ok v' ∧ Witness.ofJson m v' = .ok w) ∧
    (∀ ms x, parse m ms true = .ok x → ∃ b id, x = .revocable b ∧ Writable m b id ∧
      ∃ ns, rewritten m ms = .ok ns ∧ parse m ns true = .ok x ∧ rewritten m ns = .ok ns) ∧
    ∃ ns, payload m .nonRevocable = .ok ns ∧ ∀ ms,
      parse m (Json.Members.merge ms ns) false = .ok .nonRevocable ∧
        parse m (Json.Members.merge ms ns) true = .error (.missingWitness (.fields fields)) := by
  refine ⟨fun d hd => ⟨_, Delta.toJson_eq_ok hd, Delta.ofJson_record hd⟩,
    fun w hw => ⟨_, Witness.toJson_eq_ok hw, witness_ofJson (b := ⟨w, none, 0⟩) hw⟩,
    fun b id hb => ⟨_, payload_eq_ok hb, (carried_record m b id).parse hb,
      fun ms => (carried_merge m b id ms).parse hb, fun ms hms => Carried.parse hb hms⟩,
    fun v d hd => ?deltas, fun v w hw => ?witnesses, fun ms x hx => ?bindings,
    ⟨nulls, payload_nonRevocable m, fun ms => ?none⟩⟩
  case deltas =>
    have hwritable := Delta.isWritable_of_ofJson hd
    have hrecord := Delta.ofJson_record hwritable
    exact ⟨hwritable, _, Delta.rewritten_of_ofJson hd, hrecord, Delta.rewritten_of_ofJson hrecord⟩
  case witnesses =>
    have homega := Witness.isElement_of_ofJson hw
    exact ⟨homega, _, Witness.toJson_eq_ok homega, witness_ofJson (b := ⟨w, none, 0⟩) homega⟩
  case bindings =>
    obtain ⟨b, rfl⟩ := exists_of_parse hx
    obtain ⟨id, hb⟩ := writable_of_parse hx
    have hrecord := (carried_record m b id).parse hb
    exact ⟨b, id, rfl, hb, _, rewritten_of_parse hb hx, hrecord, rewritten_of_parse hb hrecord⟩
  case none =>
    have hpresent := present_merge_nulls ms
    have habsent := absent_merge_nulls ms
    constructor
    · rw [parse, validate, if_neg (by decide), if_pos hpresent]
      rfl
    · rw [parse, validate, if_pos rfl, habsent]
      rfl

open Binding in
/-- Modulo 11: a delta with a negative index, a binding whose registry has no name, and a record and
an object that are not in the form in which they are written. -/
theorem readings_of_writings_eleven :
    let m : Modulus := ⟨11, by decide⟩
    let d : Delta Int := ⟨2, 10, .ofList [3, -1], .ofList [5], by decide⟩
    let b : RevocableBinding := ⟨⟨-3, 4⟩, some "", 7⟩
    let v : Json := .object [("to", .string "0A"), ("from", .string "02"),
      ("issued", .array [.string " 3 ", .bool true, .int 3])]
    let ms : Json.Members := [("rev_reg_id", .int 7), ("name", .string "x"),
      ("witness", .object [("omega", .string "04"), ("rev_idx", .string "+5")]),
      ("rev_reg_state", .string "07")]
    d.IsWritable m ∧ (∃ v, d.toJson m = .ok v ∧ Delta.ofJson m v = .ok d) ∧
    Writable m b "" ∧ (∃ ns, payload m (.revocable b) = .ok ns ∧
      ∀ ms, parse m (Json.Members.merge ms ns) true = .ok (.revocable b)) ∧
    (∃ v', Delta.rewritten m v = .ok v' ∧ Delta.rewritten m v' = .ok v') ∧
    ∃ ns, rewritten m ms = .ok ns ∧ rewritten m ns = .ok ns := by
  intro m d b v ms
  have hd : d.IsWritable m := ⟨by decide, by decide⟩
  have hb : Writable m b "" := ⟨by decide, by decide, rfl⟩
  have hv : Delta.ofJson m v = .ok ⟨2, 10, .ofList [1, 3], ∅, by decide⟩ := by decide +kernel
  have hms : parse m ms true = .ok (.revocable ⟨⟨5, 4⟩, some "7", 7⟩) := by decide +kernel
  obtain ⟨hdeltas, -, hbindings, hrecords, -, hobjects, -⟩ := readings_of_writings m
  obtain ⟨ns, hns, -, hmerge, -⟩ := hbindings b "" hb
  obtain ⟨-, v', hrewritten, -, hsame⟩ := hrecords v _ hv
  obtain ⟨-, -, -, -, ns', hrewritten', -, hsame'⟩ := hobjects ms _ hms
  exact ⟨hd, hdeltas d hd, hb, ⟨ns, hns, hmerge⟩, ⟨v', hrewritten, hsame⟩, ns', hrewritten', hsame'⟩

end Revocation
