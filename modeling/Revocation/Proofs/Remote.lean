import Revocation.Ledger.Remote
import Revocation.Proofs.Session
import Revocation.Proofs.Wire
import Revocation.Tails.Remote

/-!
What the clients of a ledger and of a tails server make of answers in good order. A request that is
answered at once is sent once. Main statements: `head_of_response`, `between_of_response` and
`ask_of_response`, by which what the server has written is what the client reads.
-/
namespace Revocation

theorem Session.adapt_eq_ok {ε σ α : Type} {f : ε → Failure} {x : EStateM ε σ α} {s t : σ} {a : α} :
    (EStateM.adaptExcept f x : Session σ α) s = .ok a t ↔ x s = .ok a t := by
  rw [EStateM.adaptExcept]
  cases x s <;> simp

theorem Session.adapt_eq_error {ε σ α : Type} {f : ε → Failure} {x : EStateM ε σ α} {s t : σ}
    {e : Failure} : (EStateM.adaptExcept f x : Session σ α) s = .error e t ↔
      ∃ e', x s = .error e' t ∧ e = f e' := by
  rw [EStateM.adaptExcept]
  cases x s with
  | ok a u => simp
  | error e' u =>
    constructor
    · intro h
      cases h
      exact ⟨e', rfl, rfl⟩
    · rintro ⟨e', h, rfl⟩
      cases h
      rfl

namespace Http.Address

/-- A query leaves the rest of an address as it is. -/
theorem ofParts_withQuery (p : Parts) (cs : List Char) : ofParts { p with query := some cs } =
    (ofParts p).map fun a => { a with query := some (normal keptInQuery cs) } := by
  simp only [ofParts]
  cases Host.normal (splitHost (splitUser p.authority).2).1 with
  | error f => rfl
  | ok host =>
    simp only [pure_bind]
    cases portNumberOf p.scheme (withoutColon (splitHost (splitUser p.authority).2).2) with
    | error f => rfl
    | ok n =>
      simp only [bind, Except.bind, pure, Except.pure]
      split <;> rfl

theorem rebuilt_withQuery {p : Parts} {a : Address} {cs : List Char} (h : rebuilt p = .ok a)
    (hcs : cs.length ≤ limit) :
    rebuilt { p with query := some cs } = .ok { a with query := some (normal keptInQuery cs) } := by
  rw [rebuilt] at h ⊢
  split at h
  · cases h
  · next hshort =>
    split
    · next hlong =>
      have hlimit := List.find?_some hlong
      have hmem := List.mem_of_find?_eq_some hlong
      simp only [List.find?_eq_none, List.forall_mem_cons] at hshort
      simp only [List.mem_cons, List.not_mem_nil, or_false] at hmem
      rcases hmem with h | h | h | h | h <;> cases h <;> simp_all [Nat.not_lt.mpr hcs]
    · rw [ofParts_withQuery, h]
      rfl

theorem target_withQuery {written : String} {a a' : Address} {q : String}
    (ha : target written none = .ok a) (h : rebuilt a.parts = .ok a')
    (hplace : a'.checkPlace = .ok ()) (hq : q.toList.length ≤ limit) :
    target written (some q) =
      .ok { a' with query := some (normal keptInQuery q.toList) } := by
  obtain ⟨b, hb, hrest⟩ := bind_eq_ok.mp ha
  obtain ⟨c, hc, hrest⟩ := bind_eq_ok.mp hrest
  obtain ⟨_, hpure, hrest⟩ := bind_eq_ok.mp hrest
  cases hpure
  obtain ⟨_, -, hrest⟩ := bind_eq_ok.mp hrest
  cases hrest
  have hquery : a.withQuery q = .ok { a' with query := some (normal keptInQuery q.toList) } :=
    rebuilt_withQuery h hq
  have hchecked : ({ a' with query := some (normal keptInQuery q.toList) } : Address).checkPlace =
      .ok () := hplace
  simp only [target, hb, hc, hquery, bind, Except.bind, pure, Except.pure, hchecked]

/-- No query may be longer than the limit, wherever it is asked. -/
theorem target_of_long_query {written q : String} {a : Address} (ha : target written none = .ok a)
    (hq : limit < q.toList.length) :
    ∃ part, target written (some q) = .error (.partTooLong part) := by
  obtain ⟨b, hb, hrest⟩ := bind_eq_ok.mp ha
  obtain ⟨c, hc, -⟩ := bind_eq_ok.mp hrest
  have hquery : ∃ part, c.withQuery q = .error (.partTooLong part) := by
    rw [withQuery, rebuilt]
    split
    · next name cs _ => exact ⟨name, rfl⟩
    · next hshort =>
      have hall := List.find?_eq_none.mp hshort ("query", q.toList) (by simp)
      exact absurd (decide_eq_true hq) hall
  obtain ⟨part, hpart⟩ := hquery
  exact ⟨part, by simp only [target, hb, hc, hpart, bind, Except.bind]⟩

end Http.Address

namespace Http

variable {σ : Type} {server : Server σ} {service : Service} {path : String} {query : Option String}
  {a : Address} {t : Traffic σ} {u : σ} {status : Nat} {body : Bytes}

def Service.request (s : Service) (a : Address) : Request := ⟨a, s.timeout, some s.verify⟩

/-- What is on record after one request. -/
def Traffic.exchanged (t : Traffic σ) (r : Request) (server : σ) : Traffic σ :=
  { t with server := server, requests := r :: t.requests }

/-- What comes back for a request is what the server answers. -/
theorem send_eq_ok {r : Request} {response : Response} {t' : Traffic σ} :
    send server r t = .ok response t' ↔ r.address.isAbsolute ∧
      ∃ s, server r t.server = (.response response.status response.body, s) ∧
        t' = t.exchanged r s := by
  rw [send]
  cases server r t.server with
  | mk answer s =>
    cases answer with
    | failure kind text =>
      refine ⟨nofun, ?_⟩
      rintro ⟨-, _, h, -⟩
      cases h
    | response status body =>
      dsimp only
      constructor
      · intro h
        split at h <;> cases h
        exact ⟨‹_›, s, rfl, rfl⟩
      · rintro ⟨habsolute, _, h, rfl⟩
        cases h
        exact if_pos habsolute

theorem retrying_of_ok {ε α : Type} {p : RetryPolicy} {clock : RetryPolicy.Clock}
    {transient : ε → Bool} {ofWaitFault : RetryPolicy.WaitFault → ε} {slept : Float → σ → σ}
    {run : EStateM ε σ α} {x : α} {s s' : σ} (h : run s = .ok x s') (spare attempt : Nat) :
    p.retrying clock transient ofWaitFault slept run spare attempt s = .ok x s' := by
  cases spare with
  | zero => exact h
  | succ n => simp only [RetryPolicy.retrying, h]

/-- What one attempt comes to, by what the server answers. -/
theorem attempt_eq {r : Request} {answer : Answer} (h : server r t.server = (answer, u)) :
    attempt server r t = match answer with
      | .response status body =>
        if r.address.isAbsolute then
          if 500 ≤ status then .error (.status status) (t.exchanged r u)
          else .ok ⟨status, body⟩ (t.exchanged r u)
        else .error (.noServer r.url) (t.exchanged r u)
      | .failure kind text => .error (.failure kind text) (t.exchanged r u) := by
  cases answer with
  | failure kind text =>
    simp only [attempt, bind, EStateM.bind, send, h]
    rfl
  | response status body =>
    by_cases hab : r.address.isAbsolute
    · by_cases hs : 500 ≤ status
      · simp only [attempt, bind, EStateM.bind, send, h, if_pos hab, if_pos hs]
        rfl
      · simp only [attempt, bind, EStateM.bind, send, h, if_pos hab, if_neg hs]
        rfl
    · simp only [attempt, bind, EStateM.bind, send, h, if_neg hab]
      rfl

theorem attempt_of_response {r : Request} (hab : r.address.isAbsolute) (hs : status < 500)
    (hr : server r t.server = (.response status body, u)) :
    attempt server r t = .ok ⟨status, body⟩ (t.exchanged r u) := by
  simp only [attempt_eq hr, if_pos hab, if_neg (Nat.not_le.mpr hs)]

theorem get_of_response (ha : Address.target (service.url path) query = .ok a) (hab : a.isAbsolute)
    (hs : status < 500)
    (hr : server (service.request a) t.server = (.response status body, u)) :
    service.get server path query t =
      .ok ⟨status, body⟩ (t.exchanged (service.request a) u) := by
  rw [Service.get, ha]
  exact retrying_of_ok (attempt_of_response (r := service.request a) hab hs hr) _ _

end Http

namespace RemoteLedger

variable {σ : Type} {m : Modulus} {service : Http.Service} {server : Http.Server σ}
  {path : String} {query : Option String} {t t' : Http.Traffic σ} {body : Bytes}
  {ms : Json.Members} {v source target : Int} {ds : List (Delta Int)}

theorem ask_of_response (hget : service.get server path query t = .ok ⟨200, body⟩ t')
    (hbody : Json.parseBody body = .ok (.object ms)) :
    ask service server path query t = .ok ms t' := by
  have hjudge : judge path ⟨200, body⟩ = .ok ms := by
    simp [judge, Http.Response.isError, hbody]
  rw [ask, Session.bind_of_ok (Session.adapt_eq_ok.mpr hget), hjudge, Session.ofExcept_ok]

theorem ask_of_notFound (hget : service.get server path query t = .ok ⟨404, body⟩ t') :
    ask service server path query t = .error (.unknownState (.remote path)) t' := by
  rw [ask, Session.bind_of_ok (Session.adapt_eq_ok.mpr hget)]
  rfl

theorem ask_of_fault {f : Http.Fault} (hget : service.get server path query t = .error f t') :
    ask service server path query t = .error (failed path f) t' :=
  Session.bind_of_error (Session.adapt_eq_error.mpr ⟨f, hget, rfl⟩) _

def headDocument (m : Modulus) (v : Int) : Json :=
  .object [("accumulator", .string (m.written v))]

def deltasDocument (m : Modulus) (ds : List (Delta Int)) : Json :=
  .object [("deltas", .array (ds.map (Delta.record m)))]

theorem head_of_headOf (hget : service.get server "head" none t = .ok ⟨200, body⟩ t')
    (hbody : Json.parseBody body = .ok (.object ms)) (hhead : headOf m ms = .ok v) :
    head m service server t = .ok v t' := by
  rw [head, Session.bind_of_ok (ask_of_response hget hbody), hhead]
  rfl

theorem head_of_response (hget : service.get server "head" none t = .ok ⟨200, body⟩ t')
    (hbody : Json.parseBody body = .ok (headDocument m v)) (hv : m.IsElement v) :
    head m service server t = .ok v t' := by
  have hhead : headOf m [("accumulator", .string (m.written v))] = .ok v :=
    Modulus.decode_written hv
  exact head_of_headOf hget hbody hhead

theorem isElement_of_head (h : head m service server t = .ok v t') : m.IsElement v := by
  obtain ⟨ms, u, -, h⟩ := Session.bind_eq_ok.mp h
  have hreported := Session.eq_ok_of_ofExcept h
  cases hhead : headOf m ms with
  | error c =>
    rw [hhead] at hreported
    cases hreported
  | ok w =>
    rw [hhead] at hreported
    cases hreported
    obtain ⟨accumulator, -, hv⟩ := bind_eq_ok.mp hhead
    exact Modulus.isElement_of_decodeValue hv

/-- What is answered is a chain from the one value to the other. -/
theorem checkChain_of_between (h : between m service server source target t = .ok ds t') :
    Delta.checkChain ds (some source) (some target) = .ok () := by
  obtain ⟨a, u, -, h⟩ := Session.bind_eq_ok.mp h
  obtain ⟨b, u, -, h⟩ := Session.bind_eq_ok.mp h
  obtain ⟨ms, u, -, h⟩ := Session.bind_eq_ok.mp h
  obtain ⟨ds', u, -, h⟩ := Session.bind_eq_ok.mp h
  obtain ⟨_, u, hchain, h⟩ := Session.bind_eq_ok.mp h
  cases h
  exact Session.eq_ok_of_ofExcept hchain

theorem finish_eq_of_between (h : between m service server source target t = .ok ds t') :
    Delta.finish source ds = target :=
  Delta.finish_of_checkChain (checkChain_of_between h)

/-- The query for the deltas from one element to another. -/
def betweenQuery (m : Modulus) (source target : Int) : String :=
  s!"from={m.written source}&to={m.written target}"

theorem length_betweenQuery (m : Modulus) (source target : Int) :
    (betweenQuery m source target).toList.length = 4 * m.width + 9 := by
  have hfrom : "from=".toList.length = 5 := rfl
  have hto : "&to=".toList.length = 4 := rfl
  simp only [betweenQuery, toString, String.toList_append, List.length_append,
    Modulus.length_written, hfrom, hto]
  omega

theorem length_betweenQuery_le (source target : Int) :
    (betweenQuery .standard source target).toList.length ≤ Http.Address.limit := by
  rw [length_betweenQuery]
  decide +kernel

theorem between_of_deltasOf (hs : m.IsElement source) (ht : m.IsElement target)
    (hget : service.get server "deltas" (some (betweenQuery m source target)) t =
      .ok ⟨200, body⟩ t')
    (hbody : Json.parseBody body = .ok (.object ms)) (hdeltas : deltasOf m ms = .ok ds)
    (hlinked : Delta.Linked source ds) (hfinish : Delta.finish source ds = target) :
    between m service server source target t = .ok ds t' := by
  have hchain := hlinked.checkChain (e := some target) (by simp [hfinish])
  rw [between, Modulus.encode_eq_ok hs, Modulus.encode_eq_ok ht,
    Session.bind_of_ok (Session.ofExcept_ok _ t), Session.bind_of_ok (Session.ofExcept_ok _ t)]
  refine (Session.bind_of_ok (ask_of_response hget hbody) _).trans ?_
  rw [hdeltas, Session.bind_of_ok (Session.ofExcept_ok _ t'), hchain,
    Session.bind_of_ok (Session.ofExcept_ok _ t'), Session.pure_apply]

theorem between_of_response (hs : m.IsElement source) (ht : m.IsElement target)
    (hget : service.get server "deltas" (some (betweenQuery m source target)) t =
      .ok ⟨200, body⟩ t')
    (hbody : Json.parseBody body = .ok (deltasDocument m ds)) (hds : ∀ d, d ∈ ds → d.IsWritable m)
    (hlinked : Delta.Linked source ds) (hfinish : Delta.finish source ds = target) :
    between m service server source target t = .ok ds t' := by
  have hdeltas : deltasOf m [("deltas", .array (ds.map (Delta.record m)))] = .ok ds :=
    Delta.mapM_ofJson_record hds
  exact between_of_deltasOf hs ht hget hbody hdeltas hlinked hfinish

theorem between_of_notFound (hs : m.IsElement source) (ht : m.IsElement target)
    (hget : service.get server "deltas" (some (betweenQuery m source target)) t =
      .ok ⟨404, body⟩ t') :
    between m service server source target t = .error (.unknownState (.remote "deltas")) t' := by
  rw [between, Modulus.encode_eq_ok hs, Modulus.encode_eq_ok ht,
    Session.bind_of_ok (Session.ofExcept_ok _ t), Session.bind_of_ok (Session.ofExcept_ok _ t)]
  exact Session.bind_of_error (ask_of_notFound hget) _

theorem between_of_fault {f : Http.Fault} (hs : m.IsElement source) (ht : m.IsElement target)
    (hget : service.get server "deltas" (some (betweenQuery m source target)) t = .error f t') :
    between m service server source target t = .error (failed "deltas" f) t' := by
  rw [between, Modulus.encode_eq_ok hs, Modulus.encode_eq_ok ht,
    Session.bind_of_ok (Session.ofExcept_ok _ t), Session.bind_of_ok (Session.ofExcept_ok _ t)]
  exact Session.bind_of_error (ask_of_fault hget) _

end RemoteLedger

namespace RemoteTails

variable {σ : Type} {m : Modulus} {service : Http.Service} {server : Http.Server σ}
  {t t' : Http.Traffic σ} {body : Bytes} {i v : Int}

def entryDocument (m : Modulus) (i v : Int) : Json :=
  .object [("index", .int i), ("entry", .string (m.written v))]

theorem ask_of_response (hget : service.get server (toString i) none t = .ok ⟨200, body⟩ t')
    (hbody : Json.parseBody body = .ok (entryDocument m i v)) (hv : m.IsElement v) :
    ask m service server i t = .ok v t' := by
  have hentry : entryOf m i body = .ok v := by
    have hdecode := Modulus.decode_written hv
    rw [entryOf, hbody]
    simp [entryDocument, Record.member, Json.Members.get?, List.lookup_cons, Record.index,
      Modulus.decodeValue, bind, Except.bind, pure, Except.pure, hdecode]
  have hjudge : judge m i ⟨200, body⟩ = .ok v := by
    simp [judge, Http.Response.isError, hentry, Malformed.reported]
  rw [ask, Session.bind_of_ok (Session.adapt_eq_ok.mpr hget), hjudge, Session.ofExcept_ok]

end RemoteTails
end Revocation
