import Revocation.Proofs.Chronicle
import Revocation.Proofs.JsonDocument
import Revocation.Proofs.Remote

/-!
A registry behind a ledger server and a tails server. Its issuer goes on working: before each
request that comes in, any number of calls may have been performed, and the answer is given from the
state that the registry is in by then. Main statements: what the servers answer, `answer_head`,
`refuses_iff` and `answer_entry`.
-/
namespace Revocation

inductive Endpoint
  | head
  | deltas (source target : String)
  | entry (index : Int)
deriving DecidableEq

/-- The deltas are asked for with a query, the head and the entries by the last part of the path. -/
def Endpoint.ofAddress? (a : Http.Address) : Option Endpoint :=
  let name := (a.path.toList.reverse.takeWhile (· ≠ '/')).reverse
  match a.query with
  | some q =>
    let (source, target) := q.toList.span (· ≠ '&')
    some (.deltas (String.ofList (source.drop "from=".length))
      (String.ofList (target.drop "&to=".length)))
  | none =>
    if name = "head".toList then some .head
    else if name.all Numeral.isDigit then some (.entry (Numeral.value (Numeral.digitsOf name)))
    else none

/-- Where a registry is served, how its servers tell requests apart and how they write documents. -/
structure Site where
  ledger : Http.Service
  tails : Http.Service
  route : Http.Address → Option Endpoint
  write : Json → Bytes

/-- A registry whose issuer performs the next batch of calls before the next request. -/
structure Issuer (σ : Type) where
  chronicle : Chronicle σ
  agenda : List (List Registry.Call)

def Issuer.proceed {σ : Type} (tails : TailsSource σ) (x : Issuer σ) : Issuer σ :=
  match x.agenda with
  | [] => x
  | calls :: rest => ⟨x.chronicle.recordAll tails calls, rest⟩

namespace Site

def ofServices (ledger tails : Http.Service) : Site :=
  ⟨ledger, tails, Endpoint.ofAddress?, fun v => Bytes.ofText (Json.render true v)⟩

variable {σ : Type} (site : Site) (tails : TailsSource σ)

def refusal (reason : String) : Http.Answer :=
  .response 404 (site.write (.object [("error", .string reason)]))

/-- A document, or what comes of one that cannot be written. -/
def reply : Except Failure Json → Http.Answer
  | .ok v => .response 200 (site.write v)
  | .error _ => .response 500 []

def headOf (r : Registry) : Except Failure Json := do
  return .object [("accumulator", .string (← r.modulus.encode r.accumulator))]

def deltasOf (r : Registry) (ds : List (Delta Int)) : Except Failure Json := do
  return .object [("deltas", .array (← ds.mapM (Delta.toJson r.modulus)))]

def entryOf (r : Registry) (index entry : Int) : Except Failure Json := do
  return .object [("index", .int index), ("entry", .string (← r.modulus.encode entry))]

def answerDeltas (r : Registry) (source target : String) : Http.Answer :=
  match r.modulus.decode source, r.modulus.decode target with
  | .ok v, .ok w => match r.ledger.between v w with
    | .ok ds => site.reply (deltasOf r ds)
    | .error (.unknownState _) => site.refusal "unknown state"
    | .error _ => .response 500 []
  | _, _ => .response 500 []

/-- The answer of an endpoint, and the chronicle after it: the entry is looked up in the issuer's
source. -/
def answer (h : Chronicle σ) : Endpoint → Http.Answer × Chronicle σ
  | .head => (site.reply (headOf h.registry), h)
  | .deltas source target => (site.answerDeltas h.registry source target, h)
  | .entry i =>
    if i < 1 ∨ h.registry.capacity < i then (site.refusal "unknown index", h)
    else match tails i h.source with
      | .ok a s => (site.reply (entryOf h.registry i a), { h with source := s })
      | .error _ s => (.response 500 [], { h with source := s })

def server : Http.Server (Issuer σ) := fun r x =>
  let x := x.proceed tails
  match site.route r.address with
  | none => (site.refusal "unknown path", x)
  | some e =>
    let (a, h) := site.answer tails x.chronicle e
    (a, { x with chronicle := h })

end Site

open RemoteLedger RemoteTails

/-- The documents that a registry's servers send. -/
inductive IsDocument (m : Modulus) (capacity : Nat) : Json → Prop
  | head {v : Int} (hv : m.IsElement v) : IsDocument m capacity (headDocument m v)
  | deltas {ds : List (Delta Int)} (hds : ∀ d, d ∈ ds → d.IsWritable m ∧
      ∀ i, i ∈ d.issued ∨ i ∈ d.revoked → i ∈ IndexSet.upTo capacity) :
      IsDocument m capacity (deltasDocument m ds)
  | entry {i v : Int} (hi : i ∈ IndexSet.upTo capacity) (hv : m.IsElement v) :
      IsDocument m capacity (entryDocument m i v)

theorem readable_indices {capacity : Nat} {s : IndexSet}
    (hcapacity : capacity < Nat.pow 10 Numeral.limit)
    (hs : ∀ i, i ∈ s → i ∈ IndexSet.upTo capacity) (n : Nat) :
    Json.Readable (n + 1) (Delta.indices s) := by
  intro v hv
  obtain ⟨i, hi, rfl⟩ := List.mem_map.mp hv
  have hrange := IndexSet.mem_upTo.mp (hs i (IndexSet.mem_def.mpr hi))
  have hsmall : i.natAbs < Nat.pow 10 Numeral.limit := by omega
  cases n <;> exact hsmall

theorem IsDocument.readable {m : Modulus} {capacity : Nat} {v : Json} (hv : IsDocument m capacity v)
    (hcapacity : capacity < Nat.pow 10 Numeral.limit) : Json.Readable Json.levelLimit v := by
  change Json.Readable (976 + 4) v
  cases hv with
  | head hv =>
    refine ⟨by simp, List.forall_mem_singleton.mpr ?_⟩
    trivial
  | deltas hds =>
    refine ⟨by simp, List.forall_mem_singleton.mpr fun v hv => ?_⟩
    obtain ⟨d, hd, rfl⟩ := List.mem_map.mp hv
    have hindices := fun i => (hds d hd).2 i
    refine ⟨by simp, ?_⟩
    simp only [List.forall_mem_cons]
    exact ⟨trivial, trivial, readable_indices hcapacity (fun i hi => hindices i (.inl hi)) _,
      readable_indices hcapacity (fun i hi => hindices i (.inr hi)) _, List.forall_mem_nil _⟩
  | entry hi hv =>
    have hrange := IndexSet.mem_upTo.mp hi
    refine ⟨by simp, ?_⟩
    simp only [List.forall_mem_cons]
    refine ⟨?_, trivial, List.forall_mem_nil _⟩
    show Int.natAbs _ < Nat.pow 10 Numeral.limit
    omega

/-- Requests arrive where they are meant to, and documents are read as they were written. -/
structure Site.Serves (site : Site) (m : Modulus) (capacity : Nat) : Prop where
  head : ∃ a, Http.Address.target (site.ledger.url "head") none = .ok a ∧ a.isAbsolute ∧
    site.route a = some .head
  deltas : ∀ v w, m.IsElement v → m.IsElement w → ∃ a,
    Http.Address.target (site.ledger.url "deltas") (some (betweenQuery m v w)) = .ok a ∧
      a.isAbsolute ∧ site.route a = some (.deltas (m.written v) (m.written w))
  entry : ∀ i, i ∈ IndexSet.upTo capacity → ∃ a,
    Http.Address.target (site.tails.url (toString i)) none = .ok a ∧ a.isAbsolute ∧
      site.route a = some (.entry i)
  reads : ∀ v, IsDocument m capacity v → Json.parseBody (site.write v) = .ok v

namespace Site

theorem ofServices_reads {ledger tails : Http.Service} {m : Modulus} {capacity : Nat}
    (hcapacity : capacity < Nat.pow 10 Numeral.limit) (v : Json) (hv : IsDocument m capacity v) :
    Json.parseBody ((ofServices ledger tails).write v) = .ok v :=
  Json.parseBody_render (hv.readable hcapacity)

variable {σ : Type} {site : Site} {tails : TailsSource σ} {m : Modulus} {h : Chronicle σ}

theorem answer_head (hm : h.registry.modulus = m) (hv : m.IsElement h.registry.accumulator) :
    site.answer tails h .head =
      (.response 200 (site.write (headDocument m h.registry.accumulator)), h) := by
  have hdocument : headOf h.registry = .ok (headDocument m h.registry.accumulator) := by
    rw [headOf, hm, Modulus.encode_eq_ok hv]
    rfl
  rw [answer, hdocument, reply]

variable {r : Registry} {v w : Int}

theorem answerDeltas_of_ok (hm : r.modulus = m) (hv : m.IsElement v) (hw : m.IsElement w)
    {ds : List (Delta Int)} (hb : r.ledger.between v w = .ok ds)
    (hds : ∀ d, d ∈ ds → d.IsWritable m) :
    site.answerDeltas r (m.written v) (m.written w) =
      .response 200 (site.write (deltasDocument m ds)) := by
  have hdocument : deltasOf r ds = .ok (deltasDocument m ds) := by
    rw [deltasOf, hm, mapM_eq_ok fun d hd => Delta.toJson_eq_ok (hds d hd)]
    rfl
  simp only [answerDeltas, hm, Modulus.decode_written hv, Modulus.decode_written hw, hb,
    hdocument, reply]

theorem answerDeltas_of_error (hm : r.modulus = m) (hv : m.IsElement v) (hw : m.IsElement w)
    {e : Failure} (hb : r.ledger.between v w = .error e) :
    site.answerDeltas r (m.written v) (m.written w) = site.refusal "unknown state" := by
  obtain ⟨cause, rfl⟩ := Ledger.between_eq_error hb
  simp only [answerDeltas, hm, Modulus.decode_written hv, Modulus.decode_written hw, hb]

/-- That the deltas from one value to another are not served. -/
def Refuses (site : Site) (r : Registry) (source target : Int) : Prop :=
  ∃ body, site.answerDeltas r (r.modulus.written source) (r.modulus.written target) =
    .response 404 body

theorem refuses_iff (hm : r.modulus = m) (hv : m.IsElement v) (hw : m.IsElement w)
    (hds : ∀ ds, r.ledger.between v w = .ok ds → ∀ d, d ∈ ds → d.IsWritable m) :
    site.Refuses r v w ↔ ∃ e, r.ledger.between v w = .error e := by
  rw [Refuses, hm]
  cases hb : r.ledger.between v w with
  | ok ds =>
    rw [answerDeltas_of_ok hm hv hw hb (hds ds hb)]
    simp
  | error e =>
    rw [answerDeltas_of_error hm hv hw hb]
    simp [refusal]

theorem answer_entry (hm : h.registry.modulus = m) {i a : Int} {s : σ}
    (hi : i ∈ IndexSet.upTo h.registry.capacity) (ha : m.IsElement a)
    (hf : tails i h.source = .ok a s) :
    site.answer tails h (.entry i) =
      (.response 200 (site.write (entryDocument m i a)), { h with source := s }) := by
  have hrange : ¬ (i < 1 ∨ h.registry.capacity < i) := by
    have := IndexSet.mem_upTo.mp hi
    omega
  have hdocument : entryOf h.registry i a = .ok (entryDocument m i a) := by
    rw [entryOf, hm, Modulus.encode_eq_ok ha]
    rfl
  simp only [answer, if_neg hrange, hf, hdocument, reply]

theorem server_apply {r : Http.Request} {x : Issuer σ} {e : Endpoint} {a : Http.Answer}
    (hr : site.route r.address = some e)
    (ha : site.answer tails (x.proceed tails).chronicle e = (a, h)) :
    site.server tails r x = (a, { x.proceed tails with chronicle := h }) := by
  simp only [server, hr, ha]

end Site
end Revocation
