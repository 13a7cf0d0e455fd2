import Mathlib.Data.List.Induction
import Revocation.Proofs.Retrying

/-!
The cache of the tails client over whole runs. Whatever the server answers, an entry that has been
fetched stays at hand until the cache is cleared, nothing but an entry that was fetched is ever at
hand, and an entry that is not is asked for. Main statements: `lookup_eq_some_iff`, `exists_ask` and
`fetch_of_run`.
-/
namespace Revocation.RemoteTails

open Http

/-- What can be done with the client. -/
inductive Call
  | fetch (index : Int)
  | clear

variable {σ : Type} (m : Modulus) (service : Service) (server : Server σ)

def Call.run : Call → Session (Cache × Traffic σ) Unit
  | .fetch index => discard (RemoteTails.fetch m service server index)
  | .clear => RemoteTails.clear

def performAll (calls : List Call) (x : Cache × Traffic σ) : Cache × Traffic σ :=
  calls.foldl (fun x c => (c.run m service server).after x) x

/-- The calls fetch the entry and do not clear the cache after that. -/
def Fetched (calls : List Call) (x : Cache × Traffic σ) (i v : Int) : Prop :=
  ∃ before after y, calls = before ++ .fetch i :: after ∧ ¬ Call.clear ∈ after ∧
    fetch m service server i (performAll m service server before x) = .ok v y

/-- The body is a document that gives the entry and names the index that it is for. -/
structure Records (i v : Int) (body : Bytes) : Prop where
  element : m.IsElement v
  document : ∃ document answered entry, Json.parseBody body = .ok document ∧
    Record.member document "index" = .ok answered ∧ Record.index answered = .ok i ∧
    Record.member document "entry" = .ok entry ∧ m.decodeValue entry = .ok v

/-- What an answer to a request for the entry comes to. -/
def verdict (i : Int) : Answer → Except Failure Int
  | .response status body =>
    if status = 404 then .error (.noTailsEntry (.unknownToServer i))
    else if 400 ≤ status then .error (.tails (.status i status))
    else Malformed.reported (fun c => .tails (.invalid i c)) (entryOf m i body)
  | .failure kind text =>
    if kind.isRequest then .error (.tails (.network i text)) else .error (.transport text)

/-- A request that is sent once more than `n` times, in a row of answers that pass but for the last
one. -/
structure Sent (a : Address) (t : Traffic σ) (n : Nat) (answer : Answer) (t' : Traffic σ) :
    Prop where
  within : n < service.policy.attempts
  answers : server.Answers (service.request a) n t.server answer t'.server
  requests : t'.requests = List.replicate (n + 1) (service.request a) ++ t.requests
  clock : t'.clock = t.clock

/-- How a fetch goes that finds nothing at hand. -/
inductive Asks (i : Int) (x : Cache × Traffic σ) : Prop
  | answered {a : Address} {n : Nat} {answer : Answer} {t : Traffic σ}
      (ha : Address.target (service.url (toString i)) none = .ok a)
      (hsent : Sent service server a x.2 n answer t)
      (hlast : answer.isPassing → n + 1 = service.policy.attempts)
      (h : fetch m service server i x = match verdict m i answer with
        | .ok v => .ok v ((i, v) :: x.1, t)
        | .error e => .error e (x.1, t))
  | unaddressed {f : Address.Fault}
      (ha : Address.target (service.url (toString i)) none = .error f)
      (h : fetch m service server i x = .error (.address f) x)
  /-- A response from an address that names no server. -/
  | nowhere {a : Address} {n status : Nat} {body : Bytes} {t : Traffic σ}
      (ha : Address.target (service.url (toString i)) none = .ok a) (hab : ¬ a.isAbsolute)
      (hsent : Sent service server a x.2 n (.response status body) t)
      (h : fetch m service server i x = .error (.noServer a.text) (x.1, t))

variable {m service server} {i j v : Int} {e : Failure} {cache : Cache} {t t' : Traffic σ}
  {x y : Cache × Traffic σ} {calls : List Call} {c : Call} {clock : RetryPolicy.Clock}

theorem performAll_append (before after : List Call) (x : Cache × Traffic σ) :
    performAll m service server (before ++ after) x =
      performAll m service server after (performAll m service server before x) :=
  List.foldl_append

theorem performAll_singleton (c : Call) (x : Cache × Traffic σ) :
    performAll m service server [c] x = (c.run m service server).after x := rfl

/-- What is at hand is not asked for. -/
theorem fetch_of_lookup (h : cache.lookup i = some v) (t : Traffic σ) :
    fetch m service server i (cache, t) = .ok v (cache, t) := by
  rw [fetch, Session.bind_apply, Session.get_apply]
  simp only [h, Session.pure_apply]

theorem fetch_of_ask (m : Modulus) (service : Service) (server : Server σ)
    (h : cache.lookup i = none) (t : Traffic σ) :
    fetch m service server i (cache, t) = match ask m service server i t with
      | .ok v t' => .ok v ((i, v) :: cache, t')
      | .error e t' => .error e (cache, t') := by
  rw [fetch, Session.bind_apply, Session.get_apply]
  simp only [h]
  cases ha : ask m service server i t with
  | ok v t' => exact Session.bind_of_ok (Session.inner_of_ok ha cache) _
  | error e t' => exact Session.bind_of_error (Session.inner_of_error ha cache) _

theorem lookup_of_fetch (h : fetch m service server i x = .ok v y) : y.1.lookup i = some v := by
  obtain ⟨cache, t⟩ := x
  cases hl : cache.lookup i with
  | some w =>
    rw [fetch_of_lookup hl] at h
    cases h
    exact hl
  | none =>
    rw [fetch_of_ask m service server hl] at h
    cases ha : ask m service server i t <;> rw [ha] at h <;> cases h
    exact List.lookup_cons_self

theorem lookup_of_fetch_of_ne (hij : i ≠ j) (h : fetch m service server j x = .ok v y) :
    y.1.lookup i = x.1.lookup i := by
  obtain ⟨cache, t⟩ := x
  cases hl : cache.lookup j with
  | some w =>
    rw [fetch_of_lookup hl] at h
    cases h
    rfl
  | none =>
    rw [fetch_of_ask m service server hl] at h
    cases ha : ask m service server j t <;> rw [ha] at h <;> cases h
    have hbeq : (i == j) = false := by simpa using hij
    simp [List.lookup_cons, hbeq]

/-- A fetch that fails leaves the cache as it was, without the entry. -/
theorem cache_of_error (h : fetch m service server i x = .error e y) :
    y.1 = x.1 ∧ x.1.lookup i = none := by
  obtain ⟨cache, t⟩ := x
  cases hl : cache.lookup i with
  | some w =>
    rw [fetch_of_lookup hl] at h
    cases h
  | none =>
    rw [fetch_of_ask m service server hl] at h
    cases ha : ask m service server i t <;> rw [ha] at h <;> cases h
    exact ⟨rfl, rfl⟩

/-- What a call makes of the cache: nothing goes but by clearing, and nothing comes but by being
fetched. -/
theorem lookup_run : (((c.run m service server).after x).1.lookup i = some v) ↔
    c ≠ .clear ∧ (x.1.lookup i = some v ∨
      x.1.lookup i = none ∧ c = .fetch i ∧ ∃ y, fetch m service server i x = .ok v y) := by
  obtain ⟨cache, t⟩ := x
  cases c with
  | clear => simp [Call.run, clear, Session.after, Session.modify_apply]
  | fetch j =>
    have hne : Call.fetch j ≠ .clear := fun h => by cases h
    simp only [hne, ne_eq, not_false_eq_true, true_and, Call.fetch.injEq, Call.run]
    cases hf : fetch m service server j (cache, t) with
    | error e y =>
      rw [Session.after_of_error (Session.discard_of_error hf), (cache_of_error hf).1]
      refine ⟨.inl, fun h => h.resolve_right ?_⟩
      rintro ⟨-, rfl, y, hy⟩
      rw [hf] at hy
      cases hy
    | ok w y =>
      rw [Session.after_of_ok (Session.discard_of_ok hf)]
      cases hl : cache.lookup j with
      | some w' =>
        rw [fetch_of_lookup hl] at hf
        cases hf
        refine ⟨.inl, fun h => h.resolve_right ?_⟩
        rintro ⟨hnone, rfl, -⟩
        rw [hl] at hnone
        cases hnone
      | none =>
        by_cases hij : i = j
        · cases hij
          simp [hl, hf, lookup_of_fetch hf]
        · have hji : ¬ j = i := fun h => hij h.symm
          simp [lookup_of_fetch_of_ne hij hf, hji]

/-- What is at hand was asked for once, and the cache has not been cleared since. -/
theorem exists_fetch_of_lookup
    (h : (performAll m service server calls ([], t)).1.lookup i = some v) :
    ∃ before after y, calls = before ++ .fetch i :: after ∧ ¬ Call.clear ∈ after ∧
      (performAll m service server before ([], t)).1.lookup i = none ∧
      fetch m service server i (performAll m service server before ([], t)) = .ok v y := by
  induction calls using List.reverseRecOn with
  | nil => cases h
  | append_singleton calls c ih =>
    rw [performAll_append, performAll_singleton] at h
    obtain ⟨hc, hbefore | ⟨hnone, rfl, y, hy⟩⟩ := lookup_run.mp h
    · obtain ⟨before, after, y, rfl, hclear, hnone, hy⟩ := ih hbefore
      refine ⟨before, after ++ [c], y, by simp, ?_, hnone, hy⟩
      rw [List.mem_append, List.mem_singleton]
      exact not_or.mpr ⟨hclear, Ne.symm hc⟩
    · exact ⟨calls, [], y, rfl, List.not_mem_nil, hnone, hy⟩

theorem lookup_performAll (h : x.1.lookup i = some v) (hc : ¬ Call.clear ∈ calls) :
    (performAll m service server calls x).1.lookup i = some v := by
  induction calls generalizing x with
  | nil => exact h
  | cons c calls ih =>
    rw [List.mem_cons, not_or] at hc
    exact ih (lookup_run.mpr ⟨Ne.symm hc.1, .inl h⟩) hc.2

/-- At hand is what has been fetched since the cache was last cleared. -/
theorem lookup_eq_some_iff :
    (performAll m service server calls ([], t)).1.lookup i = some v ↔
      Fetched m service server calls ([], t) i v := by
  constructor
  · intro h
    obtain ⟨before, after, y, hcalls, hclear, -, hy⟩ := exists_fetch_of_lookup h
    exact ⟨before, after, y, hcalls, hclear, hy⟩
  · rintro ⟨before, after, y, rfl, hclear, hy⟩
    rw [← List.singleton_append, performAll_append, performAll_append, performAll_singleton]
    refine lookup_performAll ?_ hclear
    rw [Call.run, Session.after_of_ok (Session.discard_of_ok hy)]
    exact lookup_of_fetch hy

theorem entryOf_eq_ok {body : Bytes} (h : entryOf m i body = .ok v) : Records m i v body := by
  rw [entryOf] at h
  split at h
  · next document hdocument =>
    obtain ⟨_, hpure, h⟩ := bind_eq_ok.mp h
    cases hpure
    obtain ⟨answered, hanswered, h⟩ := bind_eq_ok.mp h
    obtain ⟨k, hk, h⟩ := bind_eq_ok.mp h
    split at h
    · cases h
    · next hne =>
      obtain ⟨entry, hentry, hv⟩ := bind_eq_ok.mp h
      cases not_ne_iff.mp hne
      exact ⟨Modulus.isElement_of_decodeValue hv, document, answered, entry, hdocument, hanswered,
        hk, hentry, hv⟩
  · cases h

theorem records_of_verdict {answer : Answer} (h : verdict m i answer = .ok v) :
    ∃ status body, answer = .response status body ∧ status < 400 ∧ Records m i v body := by
  cases answer with
  | failure kind text =>
    rw [verdict] at h
    split at h <;> cases h
  | response status body =>
    rw [verdict] at h
    split at h
    · cases h
    · split at h
      · cases h
      · next hstatus =>
        refine ⟨status, body, rfl, by omega, entryOf_eq_ok ?_⟩
        cases hentry : entryOf m i body <;> rw [hentry] at h <;> cases h
        rfl

/-- What an answer comes to, unless it cannot have been given. -/
theorem outcome_cases (m : Modulus) (i : Int) (r : Request) (answer : Answer) :
    ((match answer.outcome r with
        | .ok x => judge m i x
        | .error f => .error (failed i f)) = verdict m i answer ∧
      (answer.isPassing → ∃ f, answer.outcome r = .error f ∧ f.isTransient)) ∨
    ¬ r.address.isAbsolute ∧ (∃ status body, answer = .response status body) ∧
      answer.outcome r = .error (.noServer r.url) := by
  cases answer with
  | failure kind text =>
    refine .inl ⟨?_, fun h => ⟨.failure kind text, rfl, h⟩⟩
    simp only [Answer.outcome, failed, verdict]
    split <;> rfl
  | response status body =>
    by_cases hab : r.address.isAbsolute
    · left
      simp only [Answer.outcome, if_pos hab, verdict]
      by_cases hs : 500 ≤ status
      · rw [if_pos hs, if_neg (by omega), if_pos (by omega)]
        exact ⟨rfl, fun _ => ⟨.status status, rfl, rfl⟩⟩
      · rw [if_neg hs]
        have herror : (Response.isError ⟨status, body⟩ = true) = (400 ≤ status) := by
          simp only [Response.isError, Bool.and_eq_true, decide_eq_true_eq]
          exact propext ⟨And.left, fun h => ⟨h, by omega⟩⟩
        simp only [judge, herror, true_and]
        intro hpassing
        exact (hs (by simpa [Answer.isPassing] using hpassing)).elim
    · exact .inr ⟨hab, ⟨status, body, rfl⟩, if_neg hab⟩

theorem exists_ask {a : Address} {t : Traffic σ} (m : Modulus) (server : Server σ)
    (hw : service.policy.Waits t.clock (service.policy.attempts - 1))
    (ha : Address.target (service.url (toString i)) none = .ok a) :
    ∃ n answer t', Exchange server (service.request a) (service.policy.attempts - 1) t n answer t' ∧
      ask m service server i t = Session.ofExcept (match answer.outcome (service.request a) with
        | .ok x => judge m i x
        | .error f => .error (failed i f)) t' := by
  obtain ⟨n, answer, t', hx, hget⟩ := exists_exchange server (service.request a)
    (service.policy.attempts - 1) 1 t fun i hi hi' => hw i (by omega) (by omega)
  refine ⟨n, answer, t', hx, ?_⟩
  have hservice : service.get server (toString i) none t =
      match answer.outcome (service.request a) with
      | .ok x => .ok x t'
      | .error f => .error f t' := by
    rw [Service.get, ha]
    exact hget
  rw [ask]
  cases ho : answer.outcome (service.request a) with
  | ok r =>
    rw [ho] at hservice
    exact Session.bind_of_ok (Session.adapt_eq_ok.mpr hservice) _
  | error f =>
    rw [ho] at hservice
    exact Session.bind_of_error (Session.adapt_eq_error.mpr ⟨f, hservice, rfl⟩) _

theorem asks_of_lookup (m : Modulus) (server : Server σ)
    (hw : service.policy.Waits x.2.clock (service.policy.attempts - 1))
    (h : x.1.lookup i = none) : Asks m service server i x := by
  obtain ⟨cache, t⟩ := x
  have hfetch := fetch_of_ask m service server h t
  cases ha : Address.target (service.url (toString i)) none with
  | error f =>
    refine .unaddressed ha (hfetch.trans ?_)
    have hget : service.get server (toString i) none t = .error (.address f) t := by
      rw [Service.get, ha]
      rfl
    rw [ask, Session.bind_of_error (Session.adapt_eq_error.mpr ⟨_, hget, rfl⟩)]
    rfl
  | ok a =>
    obtain ⟨n, answer, t', hx, hask⟩ := exists_ask (t := t) m server hw ha
    have hpos := service.policy.attempts_pos
    have hn := hx.within
    have hsent : Sent service server a t n answer t' :=
      ⟨by omega, hx.answers, hx.requests, hx.clock⟩
    rw [hask] at hfetch
    rcases outcome_cases m i (service.request a) answer with
      ⟨hverdict, hpassing⟩ | ⟨hab, ⟨status, body, rfl⟩, ho⟩
    · refine .answered ha hsent (fun hp => ?_) ?_
      · obtain ⟨f, ho, hf⟩ := hpassing hp
        have := hx.last f ho hf
        omega
      · rw [hfetch, hverdict]
        cases verdict m i answer <;> rfl
    · refine .nowhere ha hab hsent ?_
      rw [hfetch, ho]
      rfl

/-- Calls leave the clock as it is. -/
theorem clock_after_fetch (m : Modulus) (server : Server σ) (i : Int)
    (hw : service.policy.Waits x.2.clock (service.policy.attempts - 1)) :
    (Session.after (fetch m service server i) x).2.clock = x.2.clock := by
  cases hl : x.1.lookup i with
  | some v => rw [Session.after_of_ok (fetch_of_lookup hl x.2)]
  | none =>
    cases asks_of_lookup m server hw hl with
    | unaddressed ha hf => rw [Session.after_of_error hf]
    | nowhere ha hab hsent hf =>
      rw [Session.after_of_error hf]
      exact hsent.clock
    | @answered a n answer t ha hsent hlast hf =>
      rw [Session.after, hf]
      cases verdict m i answer <;> exact hsent.clock

theorem clock_performAll (m : Modulus) (server : Server σ)
    (hw : service.policy.Waits clock (service.policy.attempts - 1)) (calls : List Call)
    (hx : x.2.clock = clock) : (performAll m service server calls x).2.clock = clock := by
  induction calls generalizing x with
  | nil => exact hx
  | cons c calls ih =>
    refine ih (x := (c.run m service server).after x) ?_
    cases c with
    | clear => exact hx
    | fetch i =>
      have hafter := clock_after_fetch m server i (hx ▸ hw)
      rw [Call.run, Session.after_discard, hafter, hx]

/-- An entry that is fetched comes from an answer to the fetch that asked for it. -/
theorem exists_sent_of_fetch (hw : service.policy.Waits x.2.clock (service.policy.attempts - 1))
    (hl : x.1.lookup i = none) (h : fetch m service server i x = .ok v y) :
    ∃ a n status body, Address.target (service.url (toString i)) none = .ok a ∧
      Sent service server a x.2 n (.response status body) y.2 ∧ status < 400 ∧
      Records m i v body := by
  cases asks_of_lookup m server hw hl with
  | unaddressed ha hf =>
    rw [h] at hf
    cases hf
  | nowhere ha hab hsent hf =>
    rw [h] at hf
    cases hf
  | @answered a n answer t ha hsent hlast hf =>
    rw [h] at hf
    cases hv : verdict m i answer with
    | error e =>
      rw [hv] at hf
      cases hf
    | ok w =>
      rw [hv] at hf
      cases hf
      obtain ⟨status, body, rfl, hstatus, hrecords⟩ := records_of_verdict hv
      exact ⟨a, n, status, body, ha, hsent, hstatus, hrecords⟩

end Revocation.RemoteTails
