import Revocation.Proofs.Remote

/-!
Requests that are sent again after trouble that may pass. Main statements: `get_of_answers`, by
which such trouble leaves no mark on the answer, `exists_exchange`, by which the last answer
decides, and `explains_get`, which says where answers and failures come from.
-/
namespace Revocation

/-- The first so many waits between attempts have a value and can be slept. -/
def RetryPolicy.Waits (p : RetryPolicy) (clock : Clock) (count : Nat) : Prop :=
  ∀ n : Nat, 0 < n → n ≤ count → ∃ wait, p.rest clock n = .ok wait

/-- Without an interval there is nothing to sleep, whatever the clock. -/
theorem RetryPolicy.waits_of_interval {p : RetryPolicy} (h : p.interval == 0.0) (clock : Clock)
    (count : Nat) : p.Waits clock count := by
  intro n _ _
  have hwait : p.nextInterval n = .ok 0.0 := if_pos h
  have hzero : (0.0 : Float) == 0.0 := by decide +kernel
  exact ⟨none, by simp only [rest, hwait, bind, Except.bind, if_pos hzero, pure, Except.pure]⟩

/-- What holds of each attempt, and of a wait that cannot be had, holds of all attempts together. -/
theorem RetryPolicy.retrying_induct {ε σ α : Type} {p : RetryPolicy} {clock : Clock}
    {transient : ε → Bool} {ofWaitFault : WaitFault → ε} {slept : Float → σ → σ}
    {run : EStateM ε σ α} {P : EStateM.Result ε σ α → Prop} (spare attempt : Nat) (s : σ)
    (hrun : ∀ s, P (run s))
    (hrest : ∀ n f s, attempt ≤ n → n < attempt + spare → p.rest clock n = .error f →
      P (.error (ofWaitFault f) s)) :
    P (p.retrying clock transient ofWaitFault slept run spare attempt s) := by
  induction spare generalizing attempt s with
  | zero => exact hrun s
  | succ spare ih =>
    have hs := hrun s
    simp only [retrying]
    cases hr : run s with
    | ok a s' => rwa [hr] at hs
    | error e s' =>
      rw [hr] at hs
      dsimp only
      split
      · split
        · next f hf => exact hrest attempt f s' (by omega) (by omega) hf
        · next wait _ =>
          exact ih (attempt + 1) _ fun n f s hn hn' => hrest n f s (by omega) (by omega)
      · exact hs

namespace Http

variable {σ : Type} {server : Server σ} {service : Service} {path : String} {query : Option String}
  {a : Address} {r : Request} {t t' : Traffic σ} {u : σ} {n status : Nat} {body : Bytes}
  {answer : Answer} {clock : RetryPolicy.Clock}

/-- What there is after a wait, or without one. -/
def Traffic.rested (wait : Option Float) (t : Traffic σ) : Traffic σ :=
  wait.elim t fun w => t.slept w

@[simp] theorem Traffic.server_rested (wait : Option Float) (t : Traffic σ) :
    (t.rested wait).server = t.server := by
  cases wait <;> rfl

@[simp] theorem Traffic.clock_rested (wait : Option Float) (t : Traffic σ) :
    (t.rested wait).clock = t.clock := by
  cases wait <;> rfl

@[simp] theorem Traffic.requests_rested (wait : Option Float) (t : Traffic σ) :
    (t.rested wait).requests = t.requests := by
  cases wait <;> rfl

/-- Whether a request that is answered so is worth another attempt. -/
def Answer.isPassing : Answer → Bool
  | .response status _ => 500 ≤ status
  | .failure kind _ => kind.isTransient

/-- The server answers the request in the given way after so many answers that pass. -/
inductive Server.Answers (server : Server σ) (r : Request) : Nat → σ → Answer → σ → Prop
  | now {s u : σ} {answer : Answer} (h : server r s = (answer, u)) : Answers server r 0 s answer u
  | later {n : Nat} {s s' u : σ} {answer trouble : Answer} (h : server r s = (trouble, s'))
      (hp : trouble.isPassing) (hrest : Answers server r n s' answer u) :
      Answers server r (n + 1) s answer u

/-- The address that the service is asked at. -/
structure Service.Reaches (service : Service) (path : String) (query : Option String)
    (a : Address) : Prop where
  target : Address.target (service.url path) query = .ok a
  absolute : a.isAbsolute

theorem attempt_of_passing (hab : r.address.isAbsolute) (h : server r t.server = (answer, u))
    (hp : answer.isPassing) :
    ∃ f, f.isTransient ∧ attempt server r t = .error f (t.exchanged r u) := by
  cases answer with
  | response status body =>
    have hstatus : 500 ≤ status := by simpa [Answer.isPassing] using hp
    exact ⟨.status status, rfl, by simp only [attempt_eq h, if_pos hab, if_pos hstatus]⟩
  | failure kind text => exact ⟨.failure kind text, hp, attempt_eq h⟩

/-- An answer that passes is followed by a wait and another request. -/
theorem retrying_of_passing {p : RetryPolicy} {trouble : Answer} {k : Nat}
    (hab : r.address.isAbsolute) (h : server r t.server = (trouble, u)) (hp : trouble.isPassing)
    (spare : Nat) :
    p.retrying clock Fault.isTransient .wait Traffic.slept (attempt server r) (spare + 1) k t =
      match p.rest clock k with
      | .error f => .error (.wait f) (t.exchanged r u)
      | .ok wait => p.retrying clock Fault.isTransient .wait Traffic.slept (attempt server r) spare
          (k + 1) ((t.exchanged r u).rested wait) := by
  obtain ⟨f, hf, hattempt⟩ := attempt_of_passing hab h hp
  simp only [RetryPolicy.retrying, hattempt, if_pos hf]
  cases p.rest clock k <;> rfl

/-- Answers that pass take their attempts and leave the rest of the retrying as it is. -/
theorem exists_retrying_eq {p : RetryPolicy} (spare k : Nat) (hab : r.address.isAbsolute)
    (hr : server.Answers r n t.server answer u)
    (hw : ∀ i : Nat, k ≤ i → i < k + n → ∃ wait, p.rest clock i = .ok wait) :
    ∃ t', server r t'.server = (answer, u) ∧
      p.retrying clock Fault.isTransient .wait Traffic.slept (attempt server r) (n + spare) k t =
        p.retrying clock Fault.isTransient .wait Traffic.slept (attempt server r) spare (k + n)
          t' := by
  induction n generalizing k t with
  | zero =>
    cases hr with
    | now h => exact ⟨t, h, by rw [Nat.zero_add, Nat.add_zero]⟩
  | succ n ih =>
    cases hr with
    | @later _ _ s _ _ _ h hp hrest =>
      obtain ⟨wait, hwait⟩ := hw k (Nat.le_refl k) (by omega)
      have hserver : ((t.exchanged r s).rested wait).server = s := Traffic.server_rested wait _
      obtain ⟨t', ht', heq⟩ := ih (k + 1) (hserver.symm ▸ hrest)
        fun i hi hi' => hw i (by omega) (by omega)
      refine ⟨t', ht', ?_⟩
      rw [Nat.add_right_comm, retrying_of_passing hab h hp, hwait]
      rw [Nat.add_right_comm k 1 n] at heq
      exact heq

/-- Trouble that passes before the attempts are used up leaves no mark on the answer, if the waits
that it takes can be slept. -/
theorem get_of_answers (ha : service.Reaches path query a) (hw : service.policy.Waits t.clock n)
    (hn : n < service.policy.attempts) (hs : status < 500)
    (hr : server.Answers (service.request a) n t.server (.response status body) u) :
    ∃ t', service.get server path query t = .ok ⟨status, body⟩ t' ∧ t'.server = u := by
  obtain ⟨t', h, heq⟩ := exists_retrying_eq (p := service.policy)
    (service.policy.attempts - 1 - n) 1 ha.absolute hr fun i hi hi' => hw i hi (by omega)
  have hspare : n + (service.policy.attempts - 1 - n) = service.policy.attempts - 1 := by omega
  rw [hspare] at heq
  rw [Service.get, ha.target]
  exact ⟨_, heq.trans (retrying_of_ok (attempt_of_response ha.absolute hs h) _ _), rfl⟩

/-- The first wait that cannot be slept ends the request, whatever the server would answer later. -/
theorem get_of_refusal {f : RetryPolicy.WaitFault} (ha : service.Reaches path query a)
    (hr : server.Answers (service.request a) n t.server answer u) (hp : answer.isPassing)
    (hn : n + 1 < service.policy.attempts) (hw : service.policy.Waits t.clock n)
    (hf : service.policy.rest t.clock (1 + n : Nat) = .error f) :
    ∃ t', service.get server path query t = .error (.wait f) t' ∧ t'.server = u := by
  obtain ⟨t', h, heq⟩ := exists_retrying_eq (p := service.policy)
    (service.policy.attempts - 2 - n + 1) 1 ha.absolute hr fun i hi hi' => hw i hi (by omega)
  have hspare : n + (service.policy.attempts - 2 - n + 1) = service.policy.attempts - 1 := by omega
  rw [hspare, retrying_of_passing ha.absolute h hp, hf] at heq
  rw [Service.get, ha.target]
  exact ⟨_, heq, rfl⟩

/-- What an answer is to a client that does not ask again. -/
def Answer.outcome (r : Request) : Answer → Except Fault Response
  | .response status body =>
    if r.address.isAbsolute then
      if 500 ≤ status then .error (.status status) else .ok ⟨status, body⟩
    else .error (.noServer r.url)
  | .failure kind text => .error (.failure kind text)

theorem attempt_eq_outcome (h : server r t.server = (answer, u)) :
    attempt server r t = match answer.outcome r with
      | .ok x => .ok x (t.exchanged r u)
      | .error f => .error f (t.exchanged r u) := by
  rw [attempt_eq h]
  cases answer with
  | failure kind text => rfl
  | response status body =>
    simp only [Answer.outcome]
    split
    · split <;> rfl
    · rfl

theorem Answer.isPassing_of_outcome {f : Fault} (h : answer.outcome r = .error f)
    (hf : f.isTransient) : answer.isPassing := by
  cases answer with
  | failure kind text =>
    cases h
    exact hf
  | response status body =>
    rw [Answer.outcome] at h
    split at h
    · split at h
      · next hs => simpa [Answer.isPassing] using hs
      · cases h
    · cases h
      cases hf

/-- A request that is sent again as long as its answers pass, `spare` times at most, and the answer
that ends this. -/
structure Exchange (server : Server σ) (r : Request) (spare : Nat) (t : Traffic σ) (n : Nat)
    (answer : Answer) (t' : Traffic σ) : Prop where
  within : n ≤ spare
  answers : server.Answers r n t.server answer t'.server
  requests : t'.requests = List.replicate (n + 1) r ++ t.requests
  clock : t'.clock = t.clock
  last : ∀ f, answer.outcome r = .error f → f.isTransient → n = spare

theorem Exchange.now {spare : Nat} (h : server r t.server = (answer, u))
    (hlast : ∀ f, answer.outcome r = .error f → f.isTransient → 0 = spare) :
    Exchange server r spare t 0 answer (t.exchanged r u) :=
  ⟨Nat.zero_le spare, .now h, rfl, rfl, hlast⟩

theorem Exchange.later {spare : Nat} {trouble : Answer} {wait : Option Float}
    (h : server r t.server = (trouble, u)) (hp : trouble.isPassing)
    (hx : Exchange server r spare ((t.exchanged r u).rested wait) n answer t') :
    Exchange server r (spare + 1) t (n + 1) answer t' := by
  refine ⟨Nat.succ_le_succ hx.within, .later h hp ?_, ?_, ?_, fun f hf hpass => ?_⟩
  · simpa [Traffic.exchanged] using hx.answers
  · rw [hx.requests, Traffic.requests_rested, List.replicate_succ' (n := n + 1), List.append_assoc]
    rfl
  · rw [hx.clock, Traffic.clock_rested]
    rfl
  · rw [hx.last f hf hpass]

/-- Whatever the server answers, the last answer alone decides. -/
theorem exists_exchange {p : RetryPolicy} (server : Server σ) (r : Request) (spare k : Nat)
    (t : Traffic σ)
    (hw : ∀ i : Nat, k ≤ i → i < k + spare → ∃ wait, p.rest clock i = .ok wait) :
    ∃ n answer t', Exchange server r spare t n answer t' ∧
      p.retrying clock Fault.isTransient .wait Traffic.slept (attempt server r) spare k t =
        match answer.outcome r with
        | .ok x => .ok x t'
        | .error f => .error f t' := by
  induction spare generalizing k t with
  | zero =>
    cases hr : server r t.server with
    | mk answer u => exact ⟨0, answer, _, .now hr fun _ _ _ => rfl, attempt_eq_outcome hr⟩
  | succ spare ih =>
    cases hr : server r t.server with
    | mk answer u =>
      have hattempt := attempt_eq_outcome hr
      simp only [RetryPolicy.retrying]
      cases ho : answer.outcome r with
      | ok x =>
        rw [ho] at hattempt
        refine ⟨0, answer, _, .now hr fun f hf => ?_, ?_⟩
        · rw [ho] at hf
          cases hf
        · rw [hattempt, ho]
      | error f =>
        rw [ho] at hattempt
        simp only [hattempt]
        by_cases hf : f.isTransient
        · obtain ⟨wait, hwait⟩ := hw k (by omega) (by omega)
          simp only [if_pos hf, hwait]
          obtain ⟨n, last, t', hx, heq⟩ := ih (k + 1) ((t.exchanged r u).rested wait)
            fun i hi hi' => hw i (by omega) (by omega)
          exact ⟨n + 1, last, t', .later hr (Answer.isPassing_of_outcome ho hf) hx, heq⟩
        · rw [if_neg hf]
          refine ⟨0, answer, _, .now hr fun f' hf' htransient => ?_, by rw [ho]⟩
          rw [ho] at hf'
          cases hf'
          exact (hf htransient).elim

/-- The service gives the answer to a request for the path, in some state of the server. -/
def Service.Gives (service : Service) (server : Server σ) (path : String) (query : Option String)
    (answer : Answer) : Prop :=
  ∃ a s, Address.target (service.url path) query = .ok a ∧
    (server (service.request a) s).1 = answer

/-- The ways in which a request for the path can fail, by the given clock. -/
inductive Service.Fails (service : Service) (server : Server σ) (clock : RetryPolicy.Clock)
    (path : String) (query : Option String) : Fault → Prop
  | address {f : Address.Fault} (h : Address.target (service.url path) query = .error f) :
      Fails service server clock path query (.address f)
  | noServer {a : Address} (h : Address.target (service.url path) query = .ok a)
      (hab : ¬ a.isAbsolute) : Fails service server clock path query (.noServer a.text)
  | wait {n : Nat} {f : RetryPolicy.WaitFault} (h0 : 0 < n) (hn : n < service.policy.attempts)
      (h : service.policy.rest clock n = .error f) :
      Fails service server clock path query (.wait f)
  | status {status : Nat} {body : Bytes} (hs : 500 ≤ status)
      (h : service.Gives server path query (.response status body)) :
      Fails service server clock path query (.status status)
  | failure {kind : Kind} {text : String}
      (h : service.Gives server path query (.failure kind text)) :
      Fails service server clock path query (.failure kind text)

/-- A response is one that the service gives, and a failure has one of the causes. -/
structure Service.Explains (service : Service) (server : Server σ) (clock : RetryPolicy.Clock)
    (path : String) (query : Option String)
    (result : EStateM.Result Fault (Traffic σ) Response) : Prop where
  ok : ∀ r t, result = .ok r t → service.Gives server path query (.response r.status r.body)
  error : ∀ f t, result = .error f t → service.Fails server clock path query f

theorem explains_ok {r : Response}
    (h : service.Gives server path query (.response r.status r.body)) :
    service.Explains server clock path query (.ok r t) := by
  refine ⟨fun r t hr => ?_, fun f t hf => ?_⟩
  · cases hr
    exact h
  · cases hf

theorem explains_error {f : Fault} (h : service.Fails server clock path query f) :
    service.Explains server clock path query (.error f t) := by
  refine ⟨fun r t hr => ?_, fun f t hf => ?_⟩
  · cases hr
  · cases hf
    exact h

theorem explains_get (service : Service) (server : Server σ) (path : String)
    (query : Option String) (t : Traffic σ) :
    service.Explains server t.clock path query (service.get server path query t) := by
  rw [Service.get]
  cases ha : Address.target (service.url path) query with
  | error f => exact explains_error (.address ha)
  | ok a =>
    change service.Explains server t.clock path query (service.policy.call t.clock
      Fault.isTransient .wait Traffic.slept (attempt server (service.request a)) t)
    generalize t.clock = clock
    refine RetryPolicy.retrying_induct _ 1 t (fun t => ?_) fun n f _ h0 hn hf =>
      explains_error (.wait h0 (by omega) hf)
    cases hr : server (service.request a) t.server with
    | mk answer u =>
      have hgives : service.Gives server path query answer :=
        ⟨a, t.server, ha, congrArg Prod.fst hr⟩
      change service.Explains server clock path query (attempt server (service.request a) t)
      rw [attempt_eq hr]
      cases answer with
      | failure kind text => exact explains_error (.failure hgives)
      | response status body =>
        dsimp only
        split
        · split
          · next hs => exact explains_error (.status hs hgives)
          · exact explains_ok hgives
        · next hab => exact explains_error (.noServer ha hab)

end Http
end Revocation
