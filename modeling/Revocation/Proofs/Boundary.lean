import Mathlib.Control.Monad.Basic
import Revocation.Binding.Wire
import Revocation.Proofs.Retrying

/-!
How the readers of what comes in from outside fail. A fault of form is reported as the reader's own
failure; an infinite number where an index is read is no such fault, and neither is a body that goes
too deep. Main statements: `Confined.bind`, by which a reader fails as its parts do, and
`failures_at_boundary`.
-/
namespace Revocation

def Json.IsInfinite (v : Json) : Prop := ∃ negative, v = .real (.infinity negative)

/-- The reading fails for faults of form only, or for such as are let out. -/
def Confined {α : Type} (escapes : Malformed → Prop) (x : Except Malformed α) : Prop :=
  ∀ c, x = .error c → c.isFormal ∨ escapes c

section

variable {α β : Type} {escapes : Malformed → Prop}

theorem confined_ok (a : α) : Confined escapes (.ok a) := by
  intro c h
  cases h

theorem Confined.mono {x : Except Malformed α} {p : Malformed → Prop} (h : Confined p x)
    (hp : ∀ c, p c → escapes c) : Confined escapes x :=
  fun c hc => (h c hc).imp id (hp c)

theorem Confined.bind {x : Except Malformed α} {f : α → Except Malformed β}
    (hx : Confined escapes x) (hf : ∀ a, x = .ok a → Confined escapes (f a)) :
    Confined escapes (x >>= f) := by
  intro c h
  rcases bind_eq_error.mp h with h | ⟨a, ha, h⟩
  · exact hx c h
  · exact hf a ha c h

theorem failure_cases {as : Malformed → Failure} {c : Malformed} (h : c.isFormal ∨ escapes c) :
    c.failure as = as c ∨ escapes c ∧ c.failure as = .malformed c := by
  rw [Malformed.failure]
  split
  · exact .inl rfl
  · next hform => exact .inr ⟨h.resolve_left hform, rfl⟩

theorem reported_eq_ok {α : Type} {as : Malformed → Failure} {x : Except Malformed α} {a : α} :
    Malformed.reported as x = .ok a ↔ x = .ok a := by
  cases x <;> simp [Malformed.reported]

/-- What is not let out is reported in the reader's own way. -/
theorem Confined.reported {x : Except Malformed α} {as : Malformed → Failure} {e : Failure}
    (hx : Confined escapes x) (h : Malformed.reported as x = .error e) :
    (∃ c, e = as c) ∨ ∃ c, escapes c ∧ e = .malformed c := by
  cases x with
  | ok a => cases h
  | error c =>
    cases h
    have hcases : c.failure as = as c ∨ escapes c ∧ c.failure as = .malformed c :=
      failure_cases (hx c rfl)
    rcases hcases with he | ⟨hc, he⟩
    · exact .inl ⟨c, he⟩
    · exact .inr ⟨c, hc, he⟩

theorem confined_member (v : Json) (name : String) : Confined escapes (Record.member v name) := by
  intro c h
  rw [Record.member.eq_def] at h
  split at h
  · split at h <;> cases h
    exact .inl rfl
  · cases h
    exact .inl rfl

theorem confined_decodeValue (m : Modulus) (v : Json) : Confined escapes (m.decodeValue v) := by
  intro c h
  rw [Modulus.decodeValue.eq_def] at h
  split at h
  · rw [Modulus.decode] at h
    split at h
    · cases h
      exact .inl rfl
    · simp only at h
      split at h <;> cases h
      exact .inl rfl
  · cases h
    exact .inl rfl

theorem confined_index (v : Json) :
    Confined (fun c => c = .infinite ∧ v.IsInfinite) (Record.index v) := by
  intro c h
  cases v with
  | bool b => cases h
  | int n => cases h
  | real x =>
    cases x with
    | nan negative =>
      cases h
      exact .inl rfl
    | infinity negative =>
      cases h
      exact .inr ⟨rfl, negative, rfl⟩
    | finite negative m e => cases h
  | string s =>
    rw [Record.index, Record.numeral] at h
    split at h <;> cases h
    · exact .inl rfl
    · exact .inl rfl
  | null | array _ | object _ =>
    cases h
    exact .inl rfl

/-- Only an array has numbers among its items. -/
theorem confined_indexSet (v : Json) :
    Confined (fun c => c = .infinite ∧ ∃ vs x, v = .array vs ∧ x ∈ vs ∧ x.IsInfinite)
      (Record.indexSet v) := by
  rw [Record.indexSet]
  split
  · exact confined_ok _
  · refine Confined.bind (fun c h => ?_) fun vs hvs => Confined.bind (fun c h => ?_) fun is _ =>
      confined_ok _
    · cases v <;> cases h <;> exact .inl rfl
    · obtain ⟨x, hx, h⟩ := mapM_eq_error h
      rcases confined_index x c h with hform | ⟨hc, hinf⟩
      · exact .inl hform
      · refine .inr ⟨hc, vs, x, ?_, hx, hinf⟩
        obtain ⟨negative, rfl⟩ := hinf
        cases v <;> cases hvs
        · simp at hx
        · rfl
        · simp at hx

end

/-- What a record of a delta lets out: an infinite index. -/
inductive Delta.Escapes (v : Json) : Malformed → Prop
  | infinite {name : String} {vs : List Json} {x : Json}
      (hname : name = "issued" ∨ name = "revoked") (hvs : Record.memberOrNull v name = .array vs)
      (hx : x ∈ vs) (hinf : x.IsInfinite) : Escapes v .infinite

theorem Delta.confined_partsOf (m : Modulus) (v : Json) : Confined (Escapes v) (partsOf m v) := by
  have hset (name : String) (hname : name = "issued" ∨ name = "revoked") :
      Confined (Escapes v) (Record.indexSet (Record.memberOrNull v name)) := by
    refine (confined_indexSet _).mono ?_
    rintro _ ⟨rfl, vs, x, hvs, hx, hinf⟩
    exact .infinite hname hvs hx hinf
  rw [partsOf]
  refine Confined.bind (confined_member v _) fun _ _ => ?_
  refine Confined.bind (confined_decodeValue m _) fun _ _ => ?_
  refine Confined.bind (confined_member v _) fun _ _ => ?_
  refine Confined.bind (confined_decodeValue m _) fun _ _ => ?_
  refine Confined.bind (hset _ (.inl rfl)) fun _ _ => ?_
  exact Confined.bind (hset _ (.inr rfl)) fun _ _ => confined_ok _

theorem Delta.ofJson_eq_error {m : Modulus} {v : Json} {e : Failure} (h : ofJson m v = .error e) :
    (∃ cause, e = .inconsistent cause) ∨ ∃ c, Escapes v c ∧ e = .malformed c := by
  rcases bind_eq_error.mp h with h | ⟨⟨source, target, issued, revoked⟩, -, h⟩
  · exact ((confined_partsOf m v).reported h).imp (fun ⟨c, hc⟩ => ⟨.malformed c, hc⟩) id
  · dsimp only at h
    rw [ofSets] at h
    split at h <;> cases h
    exact .inl ⟨_, rfl⟩

/-- Each part of a delta is read from a member of its record. -/
theorem Delta.ofJson_eq_ok {m : Modulus} {v : Json} {d : Delta Int} : ofJson m v = .ok d ↔
    (∃ x, Record.member v "from" = .ok x ∧ m.decodeValue x = .ok d.source) ∧
      (∃ x, Record.member v "to" = .ok x ∧ m.decodeValue x = .ok d.target) ∧
      Record.indexSet (Record.memberOrNull v "issued") = .ok d.issued ∧
      Record.indexSet (Record.memberOrNull v "revoked") = .ok d.revoked := by
  constructor
  · intro h
    obtain ⟨⟨source, target, issued, revoked⟩, hreported, h⟩ := bind_eq_ok.mp h
    obtain ⟨x, hx, hparts⟩ := bind_eq_ok.mp (reported_eq_ok.mp hreported)
    obtain ⟨a, ha, hparts⟩ := bind_eq_ok.mp hparts
    obtain ⟨y, hy, hparts⟩ := bind_eq_ok.mp hparts
    obtain ⟨b, hb, hparts⟩ := bind_eq_ok.mp hparts
    obtain ⟨_, hissued, hparts⟩ := bind_eq_ok.mp hparts
    obtain ⟨_, hrevoked, hparts⟩ := bind_eq_ok.mp hparts
    cases hparts
    dsimp only at h
    rw [ofSets] at h
    split at h <;> cases h
    exact ⟨⟨x, hx, ha⟩, ⟨y, hy, hb⟩, hissued, hrevoked⟩
  · rintro ⟨⟨x, hx, ha⟩, ⟨y, hy, hb⟩, hissued, hrevoked⟩
    have hparts : partsOf m v = .ok (d.source, d.target, d.issued, d.revoked) :=
      bind_eq_ok.mpr ⟨x, hx, bind_eq_ok.mpr ⟨_, ha, bind_eq_ok.mpr ⟨y, hy, bind_eq_ok.mpr ⟨_, hb,
        bind_eq_ok.mpr ⟨_, hissued, bind_eq_ok.mpr ⟨_, hrevoked, rfl⟩⟩⟩⟩⟩⟩
    exact bind_eq_ok.mpr ⟨_, reported_eq_ok.mpr hparts, ofSets_eq_ok d.disjoint⟩

/-- What a record of a binding lets out: an infinite index of its witness. -/
inductive Binding.Escapes (ms : Json.Members) : Malformed → Prop
  | infinite {w x : Json} (hw : Json.Members.get? "witness" ms = some w)
      (hx : Record.member w "rev_idx" = .ok x) (hinf : x.IsInfinite) : Escapes ms .infinite

theorem Binding.confined_partsOf (m : Modulus) (ms : Json.Members) :
    Confined (Escapes ms) (partsOf m ms) := by
  rw [partsOf]
  refine (confined_member _ _).bind fun w hw => Confined.bind ?_ fun _ _ => ?_
  · rw [Witness.ofJson]
    refine (confined_member w _).bind fun x hx => ?_
    refine ((confined_index x).mono ?_).bind fun _ _ => (confined_member w _).bind fun _ _ =>
      (confined_decodeValue m _).bind fun _ _ => confined_ok _
    rintro _ ⟨rfl, hinf⟩
    refine .infinite ?_ hx hinf
    rw [Record.member] at hw
    split at hw <;> cases hw
    assumption
  · exact (confined_member _ _).bind fun _ _ => (confined_member _ _).bind fun _ _ =>
      (confined_decodeValue m _).bind fun _ _ => confined_ok _

theorem Binding.parse_eq_error {m : Modulus} {ms : Json.Members} {revocable : Bool} {e : Failure}
    (h : parse m ms revocable = .error e) :
    (revocable ∧ ∃ cause, e = .missingWitness cause) ∨
      (¬ revocable ∧ ∃ cause, e = .unexpectedWitness cause) ∨
      ∃ c, Escapes ms c ∧ e = .malformed c := by
  rcases bind_eq_error.mp h with h | ⟨_, -, h⟩
  · rw [validate] at h
    split at h
    · next hr =>
      split at h <;> cases h
      exact .inl ⟨hr, _, rfl⟩
    · next hr =>
      split at h <;> cases h
      exact .inr (.inl ⟨hr, _, rfl⟩)
  · split at h
    · next hr =>
      rcases bind_eq_error.mp h with h | ⟨_, -, h⟩
      · rcases (confined_partsOf m ms).reported h with ⟨c, rfl⟩ | hescapes
        · exact .inl ⟨hr, _, rfl⟩
        · exact .inr (.inr hescapes)
      · cases h
    · cases h

namespace Http

/-- What a body lets out that is read for any value: that it goes too deep. -/
inductive TooDeep (body : Bytes) : Malformed → Prop
  | deep {shape : Json.Shape} (h : Json.parseBody body = .error (.tooDeep shape)) :
      TooDeep body (.unreadable (.tooDeep shape))

theorem tooDeep_of_parseBody {body : Bytes} {f : Json.Fault} (h : Json.parseBody body = .error f) :
    (Malformed.unreadable f).isFormal ∨ TooDeep body (.unreadable f) := by
  cases f with
  | tooDeep shape => exact .inr (.deep h)
  | unexpected _ _ _ _ | tooLong _ | undecodable _ => exact .inl rfl

/-- What a client reports: answers without service, and failures of the request. -/
def Fault.isReported : Fault → Bool
  | .status _ => true
  | .failure kind _ => kind.isRequest
  | .wait _ | .address _ | .noServer _ => false

/-- How an exchange fails beyond what its client reports: with another fault of the request, or for
what a body lets out that the service gives. -/
inductive Service.Exceeds {σ : Type} (service : Service) (server : Server σ)
    (clock : RetryPolicy.Clock) (path : String) (query : Option String) (failed : Fault → Failure)
    (escapes : Bytes → Malformed → Prop) : Failure → Prop
  | request {f : Fault} (h : service.Fails server clock path query f) (hf : ¬ f.isReported) :
      Exceeds service server clock path query failed escapes (failed f)
  | body {status : Nat} {body : Bytes} {c : Malformed}
      (h : service.Gives server path query (.response status body)) (hc : escapes body c) :
      Exceeds service server clock path query failed escapes (.malformed c)

variable {σ α : Type} {service : Service} {server : Server σ} {path : String}
  {query : Option String} {escapes : Bytes → Malformed → Prop} {failed : Fault → Failure}
  {judge : Response → Except Failure α} {t t' : Traffic σ} {e : Failure} {a : α}

theorem exchange_eq_ok (h : (EStateM.adaptExcept failed (service.get server path query) >>= fun r =>
    Session.ofExcept (judge r) : Session (Traffic σ) α) t = .ok a t') :
    ∃ r, service.Gives server path query (.response r.status r.body) ∧ judge r = .ok a := by
  obtain ⟨r, u, hr, h⟩ := Session.bind_eq_ok.mp h
  have hget := Session.adapt_eq_ok.mp hr
  exact ⟨r, (explains_get service server path query t).ok r u hget, Session.eq_ok_of_ofExcept h⟩

/-- An exchange fails with the request, or where the response is judged. -/
theorem exchange_eq_error (h : (EStateM.adaptExcept failed (service.get server path query) >>=
    fun r => Session.ofExcept (judge r) : Session (Traffic σ) α) t = .error e t') :
    (∃ f, service.Fails server t.clock path query f ∧ e = failed f) ∨
      ∃ r, service.Gives server path query (.response r.status r.body) ∧ judge r = .error e := by
  rcases Session.bind_eq_error.mp h with h | ⟨r, u, hr, h⟩
  · obtain ⟨f, hf, he⟩ := Session.adapt_eq_error.mp h
    exact .inl ⟨f, (explains_get service server path query t).error f t' hf, he⟩
  · have hget := Session.adapt_eq_ok.mp hr
    exact .inr ⟨r, (explains_get service server path query t).ok r u hget,
      Session.eq_error_of_ofExcept h⟩

end Http

open Http

namespace RemoteTails

/-- What an entry's body lets out. -/
inductive Escapes (body : Bytes) : Malformed → Prop
  | deep {c : Malformed} (h : TooDeep body c) : Escapes body c
  | infinite {v x : Json} (h : Json.parseBody body = .ok v)
      (hx : Record.member v "index" = .ok x) (hinf : x.IsInfinite) : Escapes body .infinite

theorem confined_entryOf (m : Modulus) (index : Int) (body : Bytes) :
    Confined (Escapes body) (entryOf m index body) := by
  rw [entryOf]
  split
  · next v hbody =>
    refine (confined_ok v).bind fun _ hv => ?_
    cases hv
    refine (confined_member v _).bind fun x hx => Confined.bind ?_ fun i _ => ?_
    · refine (confined_index x).mono ?_
      rintro _ ⟨rfl, hinf⟩
      exact .infinite hbody hx hinf
    · split
      · intro c h
        cases h
        exact .inl rfl
      · exact (confined_member v _).bind fun _ _ => confined_decodeValue m _
  · next f hf =>
    intro c h
    cases h
    exact (tooDeep_of_parseBody hf).imp id .deep

variable {σ : Type} {m : Modulus} {service : Service} {server : Server σ} {index : Int}
  {t t' : Traffic σ} {e : Failure}

theorem failed_of_reported {f : Fault} (h : f.isReported) :
    ∃ cause, failed index f = .tails cause := by
  cases f with
  | status code => exact ⟨_, rfl⟩
  | failure kind text => exact ⟨_, if_pos h⟩
  | wait _ | address _ | noServer _ => cases h

theorem judge_eq_error {r : Response} (h : judge m index r = .error e) :
    (∃ cause, e = .tails cause) ∨ (∃ cause, e = .noTailsEntry cause) ∨
      ∃ c, Escapes r.body c ∧ e = .malformed c := by
  rw [judge] at h
  split at h
  · cases h
    exact .inr (.inl ⟨_, rfl⟩)
  · split at h
    · cases h
      exact .inl ⟨_, rfl⟩
    · rcases (confined_entryOf m index r.body).reported h with ⟨c, rfl⟩ | hescapes
      · exact .inl ⟨_, rfl⟩
      · exact .inr (.inr hescapes)

theorem ask_eq_error (h : ask m service server index t = .error e t') :
    (∃ cause, e = .tails cause) ∨ (∃ cause, e = .noTailsEntry cause) ∨
      service.Exceeds server t.clock (toString index) none (failed index) Escapes e := by
  rcases exchange_eq_error h with ⟨f, hf, rfl⟩ | ⟨r, hr, h⟩
  · by_cases hreported : f.isReported
    · exact .inl (failed_of_reported hreported)
    · exact .inr (.inr (.request hf hreported))
  · rcases judge_eq_error h with htails | hnone | ⟨c, hc, rfl⟩
    · exact .inl htails
    · exact .inr (.inl hnone)
    · exact .inr (.inr (.body hr hc))

/-- What is at hand cannot fail. -/
theorem fetch_eq_error {cache : Cache} {x : Cache × Traffic σ} :
    fetch m service server index (cache, t) = .error e x ↔ List.lookup index cache = none ∧
      ∃ t', ask m service server index t = .error e t' ∧ x = (cache, t') := by
  rw [fetch, Session.bind_apply, Session.get_apply]
  cases hl : List.lookup index cache with
  | some a => simp only [hl, Session.pure_apply, reduceCtorEq, false_and]
  | none =>
    simp only [hl, true_and]
    rw [Session.bind_eq_error, Session.inner_eq_error]
    constructor
    · rintro (h | ⟨a, u, -, h⟩)
      · exact h
      · rw [Session.bind_apply, Session.modify_apply] at h
        cases h
    · exact .inl

end RemoteTails

namespace RemoteLedger

/-- What the body of an answer with deltas lets out. -/
inductive Escapes (body : Bytes) : Malformed → Prop
  | deep {c : Malformed} (h : TooDeep body c) : Escapes body c
  | record {ms : Json.Members} {records : List Json} {v : Json} {c : Malformed}
      (h : Json.parseBody body = .ok (.object ms))
      (hr : Json.Members.get? "deltas" ms = some (.array records)) (hv : v ∈ records)
      (hc : Delta.Escapes v c) : Escapes body c

variable {σ : Type} {m : Modulus} {service : Service} {server : Server σ} {path : String}
  {query : Option String} {escapes : Bytes → Malformed → Prop} {t t' : Traffic σ} {e : Failure}

theorem failed_of_reported {f : Fault} (h : f.isReported) :
    ∃ cause, failed path f = .ledger cause := by
  cases f with
  | status code => exact ⟨_, rfl⟩
  | failure kind text => exact ⟨_, if_pos h⟩
  | wait _ | address _ | noServer _ => cases h

theorem judge_eq_error {r : Response} (h : judge path r = .error e) :
    (∃ cause, e = .ledger cause) ∨ (∃ cause, e = .unknownState cause) ∨
      ∃ c, TooDeep r.body c ∧ e = .malformed c := by
  rw [judge] at h
  split at h
  · cases h
    exact .inr (.inl ⟨_, rfl⟩)
  · split at h
    · cases h
      exact .inl ⟨_, rfl⟩
    · split at h
      · next f hf =>
        cases h
        rcases failure_cases (tooDeep_of_parseBody hf) with he | ⟨hc, he⟩
        · exact .inl ⟨_, he⟩
        · exact .inr (.inr ⟨_, hc, he⟩)
      · cases h
      · cases h
        exact .inl ⟨_, rfl⟩

theorem parse_of_judge {r : Response} {ms : Json.Members} (h : judge path r = .ok ms) :
    Json.parseBody r.body = .ok (.object ms) := by
  rw [judge] at h
  split at h
  · cases h
  · split at h
    · cases h
    · split at h <;> cases h
      assumption

theorem ask_eq_error (h : ask service server path query t = .error e t')
    (hescapes : ∀ body c, TooDeep body c → escapes body c) :
    (∃ cause, e = .ledger cause) ∨ (∃ cause, e = .unknownState cause) ∨
      service.Exceeds server t.clock path query (failed path) escapes e := by
  rcases exchange_eq_error h with ⟨f, hf, rfl⟩ | ⟨r, hr, h⟩
  · by_cases hreported : f.isReported
    · exact .inl (failed_of_reported hreported)
    · exact .inr (.inr (.request hf hreported))
  · rcases judge_eq_error h with hledger | hunknown | ⟨c, hc, rfl⟩
    · exact .inl hledger
    · exact .inr (.inl hunknown)
    · exact .inr (.inr (.body hr (hescapes _ c hc)))

theorem head_eq_error (h : head m service server t = .error e t') :
    (∃ cause, e = .ledger cause) ∨ (∃ cause, e = .unknownState cause) ∨
      service.Exceeds server t.clock "head" none (failed "head") TooDeep e := by
  rcases Session.bind_eq_error.mp h with h | ⟨ms, u, -, h⟩
  · exact ask_eq_error h fun _ _ => id
  · have hconfined : Confined (fun _ => False) (headOf m ms) :=
      (confined_member _ _).bind fun _ _ => confined_decodeValue m _
    rcases hconfined.reported (Session.eq_error_of_ofExcept h) with ⟨c, rfl⟩ | ⟨c, hc, -⟩
    · exact .inl ⟨_, rfl⟩
    · exact hc.elim

theorem deltasOf_eq_error {ms : Json.Members} (h : deltasOf m ms = .error e) :
    (∃ cause, e = .ledger cause) ∨ (∃ cause, e = .inconsistent cause) ∨
      ∃ records v c, Json.Members.get? "deltas" ms = some (.array records) ∧ v ∈ records ∧
        Delta.Escapes v c ∧ e = .malformed c := by
  rw [deltasOf] at h
  split at h
  · next records hrecords =>
    obtain ⟨v, hv, h⟩ := mapM_eq_error h
    rcases Delta.ofJson_eq_error h with hcause | ⟨c, hc, he⟩
    · exact .inr (.inl hcause)
    · exact .inr (.inr ⟨records, v, c, hrecords, hv, hc, he⟩)
  · cases h
    exact .inl ⟨_, rfl⟩

theorem between_eq_error {source target : Int} {a b : String} (ha : m.encode source = .ok a)
    (hb : m.encode target = .ok b) (h : between m service server source target t = .error e t') :
    (∃ cause, e = .ledger cause) ∨ (∃ cause, e = .unknownState cause) ∨
      (∃ cause, e = .inconsistent cause) ∨
      service.Exceeds server t.clock "deltas" (some s!"from={a}&to={b}") (failed "deltas") Escapes
        e := by
  rw [between, ha, hb, Session.bind_of_ok (Session.ofExcept_ok _ t),
    Session.bind_of_ok (Session.ofExcept_ok _ t)] at h
  rcases Session.bind_eq_error.mp h with h | ⟨ms, u, hask, h⟩
  · rcases ask_eq_error h fun _ _ => Escapes.deep with hledger | hunknown | hexceeds
    · exact .inl hledger
    · exact .inr (.inl hunknown)
    · exact .inr (.inr (.inr hexceeds))
  · rcases Session.bind_eq_error.mp h with h | ⟨ds, u', -, h⟩
    · obtain ⟨r, hr, hjudge⟩ := exchange_eq_ok hask
      rcases deltasOf_eq_error (Session.eq_error_of_ofExcept h) with
        hledger | hinconsistent | ⟨records, v, c, hrecords, hv, hc, rfl⟩
      · exact .inl hledger
      · exact .inr (.inr (.inl hinconsistent))
      · exact .inr (.inr (.inr (.body hr (.record (parse_of_judge hjudge) hrecords hv hc))))
    · rcases Session.bind_eq_error.mp h with h | ⟨_, _, -, h⟩
      · exact .inr (.inr (.inl (Delta.checkChain_eq_error (Session.eq_error_of_ofExcept h))))
      · cases h

end RemoteLedger

end Revocation
