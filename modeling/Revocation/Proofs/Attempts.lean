import Mathlib.Order.Bounds.Basic
import Revocation.Retry
import Revocation.Retry.Trouble

/-!
The attempts of a call, for any outcomes of the operation. A call ends with the first outcome that
is not worth another attempt, or with the last attempt there is; between two attempts it sleeps,
unless the wait is zero. A wait that the clock refuses ends it before its time. Main statements:
`retrying_scripted` and `call_scripted`.
-/
namespace Revocation

namespace RetryPolicy

/-! What is done in the course of a call. -/

inductive Act
  | run
  | sleep (wait : Float)

/-- How often the operation has been run. -/
def runs (acts : List Act) : Nat :=
  acts.countP fun
    | .run => true
    | .sleep _ => false

/-- What has been slept for. -/
def slept (acts : List Act) : List Float :=
  acts.filterMap fun
    | .run => none
    | .sleep wait => some wait

variable {ε α : Type}

/-- The result with the given outcome. -/
def ends (outcome : Except ε α) (acts : List Act) : EStateM.Result ε (List Act) α :=
  match outcome with
  | .ok a => .ok a acts
  | .error e => .error e acts

/-- The operation that comes to the given outcomes one after the other, counted from one. -/
def scripted (outcomes : Nat → Except ε α) : EStateM ε (List Act) α := fun acts =>
  ends (outcomes (runs acts + 1)) (acts ++ [.run])

def sleep (wait : Float) (acts : List Act) : List Act := acts ++ [.sleep wait]

/-- Whether an outcome is not worth another attempt. -/
def IsFinal (transient : ε → Bool) : Except ε α → Prop
  | .ok _ => True
  | .error e => ¬ transient e

/-- Whether a wait is left out or can be slept. -/
def Clock.Takes (clock : Clock) (wait : Float) : Prop := wait == 0.0 ∨ clock wait = .ok ()

/-- The attempts that a call can end with: those with a final outcome, the last one there is, and
those after which nothing can be slept. -/
def stops (p : RetryPolicy) (clock : Clock) (transient : ε → Bool) (outcomes : Nat → Except ε α)
    (first limit : Nat) : Set Nat :=
  {n | first ≤ n ∧
    (n = limit ∨ IsFinal transient (outcomes n) ∨ ∃ f, p.rest clock n = .error f)}

/-- What a call comes to that ends with the given attempt: its outcome, or the fault of the wait
that was to follow. -/
inductive Concludes (p : RetryPolicy) (clock : Clock) (transient : ε → Bool)
    (ofWaitFault : WaitFault → ε) (outcomes : Nat → Except ε α) (limit last : Nat) :
    Except ε α → Prop
  | outcome (h : last = limit ∨ IsFinal transient (outcomes last)) :
      Concludes p clock transient ofWaitFault outcomes limit last (outcomes last)
  | fault {f : WaitFault} (hlast : last < limit) (h : ¬ IsFinal transient (outcomes last))
      (hf : p.rest clock last = .error f) :
      Concludes p clock transient ofWaitFault outcomes limit last (.error (ofWaitFault f))

/-- An attempt that is followed by another one. -/
def round (waits : Nat → Float) (n : Nat) : List Act :=
  .run :: if waits n == 0.0 then [] else [.sleep (waits n)]

/-- The attempts from the first to the last. -/
def course (waits : Nat → Float) (first last : Nat) : List Act :=
  (List.range' first (last - first)).flatMap (round waits) ++ [.run]

variable {p : RetryPolicy} {clock : Clock} {transient : ε → Bool} {ofWaitFault : WaitFault → ε}
  {outcomes : Nat → Except ε α} {waits : Nat → Float} {first last limit n : Nat}

@[simp] theorem runs_append (acts acts' : List Act) :
    runs (acts ++ acts') = runs acts + runs acts' :=
  List.countP_append

@[simp] theorem slept_append (acts acts' : List Act) :
    slept (acts ++ acts') = slept acts ++ slept acts' :=
  List.filterMap_append

theorem runs_rounds (waits : Nat → Float) (ns : List Nat) :
    runs (ns.flatMap (round waits)) = ns.length := by
  induction ns with
  | nil => rfl
  | cons n ns ih =>
    have hround : runs (round waits n) = 1 := by
      rw [round]
      split <;> rfl
    rw [List.flatMap_cons, runs_append, hround, ih, List.length_cons, Nat.add_comm]

theorem slept_rounds (waits : Nat → Float) (ns : List Nat) :
    slept (ns.flatMap (round waits)) = (ns.map waits).filter fun wait => !(wait == 0.0) := by
  induction ns with
  | nil => rfl
  | cons n ns ih =>
    rw [List.flatMap_cons, slept_append, ih, List.map_cons, List.filter_cons, round]
    by_cases hzero : waits n == 0.0
    · simp [hzero, slept]
    · simp [hzero, slept]

theorem runs_course (waits : Nat → Float) (first last : Nat) :
    runs (course waits first last) = last - first + 1 := by
  rw [course, runs_append, runs_rounds, List.length_range']
  rfl

theorem slept_course (waits : Nat → Float) (first last : Nat) :
    slept (course waits first last) =
      ((List.range' first (last - first)).map waits).filter fun wait => !(wait == 0.0) := by
  rw [course, slept_append, slept_rounds]
  exact List.append_nil _

theorem course_self (waits : Nat → Float) (n : Nat) : course waits n n = [.run] := by
  rw [course, Nat.sub_self]
  rfl

theorem course_of_lt (h : first < last) :
    course waits first last = round waits first ++ course waits (first + 1) last := by
  obtain ⟨n, rfl⟩ := Nat.exists_eq_add_of_le h
  have hfirst : first + 1 + n - first = n + 1 := by omega
  have hrest : first + 1 + n - (first + 1) = n := by omega
  rw [course, course, hfirst, hrest, List.range'_succ, List.flatMap_cons, List.append_assoc]

/-! Where a call ends. -/

theorem isLeast_stops_self (h : first = limit ∨ IsFinal transient (outcomes first) ∨
    ∃ f, p.rest clock first = .error f) :
    IsLeast (stops p clock transient outcomes first limit) first :=
  ⟨⟨le_rfl, h⟩, fun _ hn => hn.1⟩

theorem isLeast_stops_of_succ {wait : Option Float} (hlimit : first ≠ limit)
    (hfinal : ¬ IsFinal transient (outcomes first)) (hrest : p.rest clock first = .ok wait)
    (h : IsLeast (stops p clock transient outcomes (first + 1) limit) last) :
    IsLeast (stops p clock transient outcomes first limit) last := by
  refine ⟨⟨Nat.le_of_succ_le h.1.1, h.1.2⟩, fun n hn => h.2 ⟨?_, hn.2⟩⟩
  have hne : first ≠ n := by
    rintro rfl
    rcases hn.2 with h | h | ⟨f, hf⟩
    · exact hlimit h
    · exact hfinal h
    · rw [hrest] at hf
      cases hf
  exact lt_of_le_of_ne hn.1 hne

/-- A call that ends with an outcome does so with the first final one, unless the attempts are used
up before it. -/
theorem eq_min_of_isLeast_stops (h : IsLeast (stops p clock transient outcomes first limit) last)
    (hlimit : first ≤ limit) (hlast : last = limit ∨ IsFinal transient (outcomes last))
    (hn : IsLeast {n | first ≤ n ∧ IsFinal transient (outcomes n)} n) : last = min n limit := by
  have hle : last ≤ min n limit :=
    le_min (h.2 ⟨hn.1.1, .inr (.inl hn.1.2)⟩) (h.2 ⟨hlimit, .inl rfl⟩)
  rcases hlast with rfl | hfinal
  · exact le_antisymm hle (min_le_right n last)
  · exact le_antisymm hle ((min_le_left n limit).trans (hn.2 ⟨h.1.1, hfinal⟩))

/-! Waits. -/

theorem rest_eq_ok {wait : Option Float} (hwait : p.nextInterval n = .ok (waits n))
    (h : p.rest clock n = .ok wait) :
    clock.Takes (waits n) ∧ wait = if waits n == 0.0 then none else some (waits n) := by
  simp only [rest, hwait, bind, Except.bind, pure, Except.pure] at h
  by_cases hzero : waits n == 0.0
  · simp only [if_pos hzero] at h ⊢
    cases h
    exact ⟨.inl hzero, rfl⟩
  · simp only [if_neg hzero] at h ⊢
    cases hclock : clock (waits n) with
    | error f =>
      rw [hclock] at h
      cases h
    | ok u =>
      rw [hclock] at h
      cases h
      exact ⟨.inr hclock, rfl⟩

theorem rest_eq_error {f : WaitFault} (hwait : p.nextInterval n = .ok (waits n))
    (h : p.rest clock n = .error f) : ¬ waits n == 0.0 ∧ clock (waits n) = .error f := by
  simp only [rest, hwait, bind, Except.bind, pure, Except.pure] at h
  by_cases hzero : waits n == 0.0
  · rw [if_pos hzero] at h
    cases h
  · rw [if_neg hzero] at h
    cases hclock : clock (waits n) with
    | error f' =>
      rw [hclock] at h
      cases h
      exact ⟨hzero, rfl⟩
    | ok u =>
      rw [hclock] at h
      cases h

theorem elim_sleep (acts : List Act) :
    (if waits n == 0.0 then none else some (waits n)).elim (acts ++ [.run])
      (fun wait => sleep wait (acts ++ [.run])) = acts ++ round waits n := by
  rw [round]
  split
  · rfl
  · rw [Option.elim_some, sleep, List.append_assoc]
    rfl

/-! Attempts one after the other. -/

variable {acts : List Act} {spare : Nat}

theorem retrying_of_final (hruns : runs acts + 1 = n) (h : IsFinal transient (outcomes n)) :
    p.retrying clock transient ofWaitFault sleep (scripted outcomes) spare n acts =
      ends (outcomes n) (acts ++ [.run]) := by
  cases spare with
  | zero => rw [retrying, scripted, hruns]
  | succ spare =>
    simp only [retrying, scripted, hruns]
    cases houtcome : outcomes n with
    | ok a => rfl
    | error e =>
      rw [houtcome] at h
      exact if_neg h

theorem retrying_of_not_final (hruns : runs acts + 1 = n)
    (h : ¬ IsFinal transient (outcomes n)) :
    p.retrying clock transient ofWaitFault sleep (scripted outcomes) (spare + 1) n acts =
      match p.rest clock n with
      | .error f => .error (ofWaitFault f) (acts ++ [.run])
      | .ok wait => p.retrying clock transient ofWaitFault sleep (scripted outcomes) spare (n + 1)
          (wait.elim (acts ++ [.run]) fun w => sleep w (acts ++ [.run])) := by
  simp only [retrying, scripted, hruns]
  cases houtcome : outcomes n with
  | ok a =>
    rw [houtcome] at h
    exact absurd trivial h
  | error e =>
    rw [houtcome, IsFinal, not_not] at h
    cases p.rest clock n with
    | error f => simp only [ends, if_pos h]
    | ok wait => simp only [ends, if_pos h]

/-- What is done from one attempt on, with some left to spare. -/
theorem retrying_scripted (spare n : Nat) (acts : List Act) (hruns : runs acts + 1 = n)
    (hwaits : ∀ i : Nat, n ≤ i → i < n + spare → p.nextInterval i = .ok (waits i)) :
    ∃ last result, IsLeast (stops p clock transient outcomes n (n + spare)) last ∧
      Concludes p clock transient ofWaitFault outcomes (n + spare) last result ∧
      p.retrying clock transient ofWaitFault sleep (scripted outcomes) spare n acts =
        ends result (acts ++ course waits n last) := by
  induction spare generalizing n acts with
  | zero =>
    refine ⟨n, outcomes n, isLeast_stops_self (.inl rfl), .outcome (.inl rfl), ?_⟩
    rw [retrying, scripted, hruns, course_self]
  | succ spare ih =>
    by_cases hfinal : IsFinal transient (outcomes n)
    · refine ⟨n, outcomes n, isLeast_stops_self (.inr (.inl hfinal)), .outcome (.inr hfinal), ?_⟩
      rw [retrying_of_final hruns hfinal, course_self]
    · cases hrest : p.rest clock n with
      | error f =>
        refine ⟨n, _, isLeast_stops_self (.inr (.inr ⟨f, hrest⟩)),
          .fault (by omega) hfinal hrest, ?_⟩
        rw [retrying_of_not_final hruns hfinal, hrest, course_self]
        rfl
      | ok wait =>
        obtain ⟨-, rfl⟩ := rest_eq_ok (hwaits n le_rfl (by omega)) hrest
        have hlimit : n + 1 + spare = n + (spare + 1) := by omega
        have hrounds : runs (acts ++ round waits n) + 1 = n + 1 := by
          have hround := runs_rounds waits [n]
          rw [List.flatMap_singleton, List.length_singleton] at hround
          rw [runs_append, hround, hruns]
        obtain ⟨last, result, hlast, hresult, heq⟩ := ih (n + 1) (acts ++ round waits n) hrounds
          fun i hi hi' => hwaits i (by omega) (by omega)
        rw [hlimit] at hlast hresult
        refine ⟨last, result, isLeast_stops_of_succ (by omega) hfinal hrest hlast, hresult, ?_⟩
        rw [retrying_of_not_final hruns hfinal, hrest]
        simp only [elim_sleep]
        rw [heq, List.append_assoc, ← course_of_lt hlast.1.1]

/-- What a call has done by the time that it ends with the given attempt. -/
structure Tries (clock : Clock) (transient : ε → Bool) (outcomes : Nat → Except ε α)
    (waits : Nat → Float) (last : Nat) (acts : List Act) : Prop where
  pos : 0 < last
  retried : ∀ n, 0 < n → n < last → ∃ e, outcomes n = .error e ∧ transient e
  taken : ∀ n, 0 < n → n < last → clock.Takes (waits n)
  runs : runs acts = last
  slept : slept acts =
    ((List.range' 1 (last - 1)).map waits).filter fun wait => !(wait == 0.0)
  order : acts = (List.range' 1 (last - 1)).flatMap (round waits) ++ [.run]

/-- A call that ends with the given attempt because no other is needed, or left. -/
structure Performs (p : RetryPolicy) (clock : Clock) (transient : ε → Bool)
    (outcomes : Nat → Except ε α) (waits : Nat → Float) (last : Nat) (acts : List Act) : Prop
    extends Tries clock transient outcomes waits last acts where
  within : last ≤ p.attempts
  /-- The first final outcome ends the call, if there are attempts enough. -/
  first : ∀ n, IsLeast {n | 0 < n ∧ IsFinal transient (outcomes n)} n → last = min n p.attempts
  exhausted : (∀ n, 0 < n → ¬ IsFinal transient (outcomes n)) → last = p.attempts

/-- A call that ends with the given attempt because the wait before another one cannot be slept. -/
structure BreaksOff (p : RetryPolicy) (clock : Clock) (transient : ε → Bool)
    (outcomes : Nat → Except ε α) (waits : Nat → Float) (last : Nat) (acts : List Act)
    (f : WaitFault) : Prop extends Tries clock transient outcomes waits last acts where
  within : last < p.attempts
  trouble : ∃ e, outcomes last = .error e ∧ transient e
  nonzero : ¬ waits last == 0.0
  refused : clock (waits last) = .error f

theorem exists_of_not_isFinal {o : Except ε α} (h : ¬ IsFinal transient o) :
    ∃ e, o = .error e ∧ transient e := by
  cases o with
  | ok a => exact absurd trivial h
  | error e => exact ⟨e, rfl, not_not.mp h⟩

theorem tries_course
    (hwaits : ∀ n : Nat, 0 < n → n < p.attempts → p.nextInterval n = .ok (waits n))
    (h : IsLeast (stops p clock transient outcomes 1 p.attempts) last) :
    Tries clock transient outcomes waits last (course waits 1 last) := by
  have hpos : 0 < last := h.1.1
  have hwithin : last ≤ p.attempts := h.2 ⟨p.attempts_pos, .inl rfl⟩
  constructor
  case pos => exact hpos
  case retried =>
    intro n hn hlast
    exact exists_of_not_isFinal fun hfinal =>
      absurd (h.2 ⟨hn, .inr (.inl hfinal)⟩) (not_le.mpr hlast)
  case taken =>
    intro n hn hlast
    cases hrest : p.rest clock n with
    | error f => exact absurd (h.2 ⟨hn, .inr (.inr ⟨f, hrest⟩)⟩) (not_le.mpr hlast)
    | ok wait => exact (rest_eq_ok (hwaits n hn (hlast.trans_le hwithin)) hrest).1
  case runs => rw [runs_course, Nat.sub_add_cancel hpos]
  case slept => exact slept_course waits 1 last
  case order => rfl

/-- A call ends with the first outcome that is a value or an exception that is not retried, or with
the last attempt, and sleeps between its attempts only; or else it ends with the first attempt after
which the clock refuses the wait. -/
theorem call_scripted (p : RetryPolicy) (clock : Clock) (transient : ε → Bool)
    (ofWaitFault : WaitFault → ε) (outcomes : Nat → Except ε α) (waits : Nat → Float)
    (hwaits : ∀ n : Nat, 0 < n → n < p.attempts → p.nextInterval n = .ok (waits n)) :
    (∃ last acts, p.call clock transient ofWaitFault sleep (scripted outcomes) [] =
      ends (outcomes last) acts ∧ Performs p clock transient outcomes waits last acts) ∨
    ∃ last acts f, p.call clock transient ofWaitFault sleep (scripted outcomes) [] =
      .error (ofWaitFault f) acts ∧ BreaksOff p clock transient outcomes waits last acts f := by
  have hlimit : 1 + (p.attempts - 1) = p.attempts := Nat.add_sub_of_le p.attempts_pos
  have hrun : ∃ last result,
      IsLeast (stops p clock transient outcomes 1 (1 + (p.attempts - 1))) last ∧
      Concludes p clock transient ofWaitFault outcomes (1 + (p.attempts - 1)) last result ∧
      p.call clock transient ofWaitFault sleep (scripted outcomes) [] =
        ends result (course waits 1 last) :=
    retrying_scripted (p.attempts - 1) 1 [] rfl fun n hn hlast => hwaits n hn (hlimit ▸ hlast)
  rw [hlimit] at hrun
  obtain ⟨last, result, hlast, hresult, hcall⟩ := hrun
  have htries := tries_course hwaits hlast
  cases hresult with
  | outcome h =>
    refine .inl ⟨last, course waits 1 last, hcall, htries, hlast.2 ⟨p.attempts_pos, .inl rfl⟩,
      fun n hn => eq_min_of_isLeast_stops hlast p.attempts_pos h hn, fun hall => ?_⟩
    exact h.resolve_right (hall last htries.pos)
  | fault hbefore hfinal hf =>
    obtain ⟨hnonzero, hrefused⟩ := rest_eq_error (hwaits last htries.pos hbefore) hf
    exact .inr ⟨last, course waits 1 last, _, hcall, htries, hbefore,
      exists_of_not_isFinal hfinal, hnonzero, hrefused⟩

/-- Two attempts by the clock of the system: the first one runs out of time, the second one fails
for good. -/
theorem call_scripted_missingKey :
    let p : RetryPolicy := ⟨2, 0.5, 0.25, by decide⟩
    let outcomes (n : Nat) : Except Trouble Nat :=
      if n = 1 then .error .timeout else .error .missingKey
    (∀ n : Nat, 0 < n → n < p.attempts → p.nextInterval n = .ok 0.5) ∧
      ∃ acts, p.call .system (·.isUnder [.system]) WaitFault.trouble sleep (scripted outcomes) [] =
        .error .missingKey acts ∧ runs acts = 2 ∧ slept acts = [0.5] := by
  intro p outcomes
  have hwaits (n : Nat) (hn : 0 < n) (hlt : n < p.attempts) : p.nextInterval n = .ok 0.5 := by
    have hone : n = 1 := Nat.le_antisymm (Nat.lt_succ_iff.mp hlt) hn
    subst hone
    decide +kernel
  have htimeout : Trouble.timeout.isUnder [.system] := by decide
  have hmissing : ¬ Trouble.missingKey.isUnder [.system] := by decide
  have hleast : IsLeast {n | 0 < n ∧ IsFinal (·.isUnder [.system]) (outcomes n)} 2 := by
    refine ⟨⟨by decide, hmissing⟩, fun n hn => ?_⟩
    by_contra hle
    have hone : n = 1 := Nat.le_antisymm (by omega) hn.1
    subst hone
    exact hn.2 htimeout
  refine ⟨hwaits, ?_⟩
  rcases call_scripted p .system (·.isUnder [.system]) WaitFault.trouble outcomes (fun _ => 0.5)
    hwaits with ⟨last, acts, hcall, hperforms⟩ | ⟨last, acts, f, -, hbreaks⟩
  · have hlast : last = 2 := hperforms.first 2 hleast
    subst hlast
    have hslept : slept acts = [0.5].filter fun wait => !(wait == 0.0) := hperforms.slept
    have hnonzero : ([0.5].filter fun wait : Float => !(wait == 0.0)) = [0.5] := by decide +kernel
    exact ⟨acts, hcall, hperforms.runs, hslept.trans hnonzero⟩
  · have htakes : Clock.system 0.5 = .ok () := by decide +kernel
    cases hbreaks.refused.symm.trans htakes

/-- A policy may ask for a wait that no clock can sleep. The operation is then run once only, and
the call ends with a failure that is none of the operation. -/
theorem call_of_negative_wait :
    let p : RetryPolicy := ⟨2, -1.0, 0.25, by decide⟩
    let outcomes (_ : Nat) : Except Trouble Nat := .error .timeout
    let result := p.call .system (·.isUnder [.timeout]) WaitFault.trouble sleep
      (scripted outcomes) []
    (∀ n : Nat, 0 < n → n < p.attempts → p.nextInterval n = .ok (-1.0)) ∧
      (∀ n, ¬ IsFinal (·.isUnder [.timeout]) (outcomes n)) ∧ result = .error .value [.run] ∧
      ∀ n acts, result ≠ ends (outcomes n) acts := by
  intro p outcomes result
  have hrest : p.rest .system (1 : Nat) = .error .negative := by decide +kernel
  have hfinal (n : Nat) : ¬ IsFinal (·.isUnder [.timeout]) (outcomes n) := not_not.mpr (by decide)
  have hresult : result = .error .value [.run] := by
    change p.retrying .system _ WaitFault.trouble sleep (scripted outcomes) (0 + 1) 1 [] = _
    refine (retrying_of_not_final (n := 1) rfl (hfinal 1)).trans ?_
    rw [hrest]
    rfl
  refine ⟨fun n hn hlt => ?_, hfinal, hresult, fun n acts h => ?_⟩
  · have hone : n = 1 := Nat.le_antisymm (Nat.lt_succ_iff.mp hlt) hn
    subst hone
    decide +kernel
  · rw [hresult] at h
    cases h

end RetryPolicy
end Revocation
