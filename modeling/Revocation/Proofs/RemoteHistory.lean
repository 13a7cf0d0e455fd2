import Revocation.Proofs.Retention
import Revocation.Proofs.Retrying
import Revocation.Proofs.Serving

/-!
A ledger as its clients see it. Main statement: `same_as_local`, by which whoever asks a server that
tells what a ledger says comes to the same as whoever asks the ledger, also if the server has to be
asked several times. What it takes for this is that the server can be asked, and that the waits
between the requests can be slept.
-/
namespace Revocation

/-- The same value, except that the members of an object may come in another order. -/
inductive Json.Alike : Json → Json → Prop
  | same (v : Json) : Alike v v
  | object {ms ns : Members} (h : ∀ name, Members.get? name ms = Members.get? name ns) :
      Alike (.object ms) (.object ns)

theorem Delta.ofJson_of_alike {m : Modulus} {v w : Json} (h : v.Alike w) :
    ofJson m v = ofJson m w := by
  cases h with
  | same => rfl
  | @object ms ns h =>
    have hparts : partsOf m (.object ms) = partsOf m (.object ns) := by
      simp only [partsOf, Record.member, Record.memberOrNull, Json.Members.getOrNull, h]
    rw [ofJson, ofJson, hparts]

theorem Delta.mapM_ofJson_of_alike {m : Modulus} {vs ws : List Json}
    (h : List.Forall₂ Json.Alike vs ws) : vs.mapM (ofJson m) = ws.mapM (ofJson m) := by
  induction h with
  | nil => rfl
  | cons hv _ ih => rw [List.mapM_cons, List.mapM_cons, ofJson_of_alike hv, ih]

namespace Ledger

variable {m : Modulus} {l : Ledger Int} {initial source target : Int} {all ds : List (Delta Int)}

theorem isWritable_of_between (h : l.Records initial all) (hk : ∀ v, l.knows v → m.IsElement v)
    (hb : l.between source target = .ok ds) : ∀ d, d ∈ ds → d.IsWritable m := by
  intro d hd
  have hkept := mem_of_between h hb hd
  exact ⟨hk _ ((knows_iff h _).mpr (.inr (.inl ⟨d, hkept, rfl⟩))),
    hk _ ((knows_iff h _).mpr (.inr (.inr ⟨d, hkept, rfl⟩)))⟩

/-- The answers that tell what a ledger has between two values. -/
inductive TellsBetween (m : Modulus) (l : Ledger Int) (source target : Int) : Http.Answer → Prop
  | deltas {ds : List (Delta Int)} {records answered : List Json} {ms : Json.Members}
      {body : Bytes} (hb : l.between source target = .ok ds)
      (hw : ds.mapM (Delta.toJson m) = .ok records) (hbody : Json.parseBody body = .ok (.object ms))
      (hms : Json.Members.get? "deltas" ms = some (.array answered))
      (halike : List.Forall₂ Json.Alike records answered) :
      TellsBetween m l source target (.response 200 body)
  | unknown {cause : UnknownState} {body : Bytes}
      (hb : l.between source target = .error (.unknownState cause)) :
      TellsBetween m l source target (.response 404 body)

/-- The answers that tell a ledger's head. -/
inductive TellsHead (m : Modulus) (l : Ledger Int) : Http.Answer → Prop
  | head {written : String} {ms : Json.Members} {body : Bytes}
      (hw : m.encode l.head = .ok written) (hbody : Json.parseBody body = .ok (.object ms))
      (hms : Json.Members.get? "accumulator" ms = some (.string written)) :
      TellsHead m l (.response 200 body)

end Ledger

namespace RemoteLedger

open Ledger Http

variable {σ : Type} {m : Modulus} {service : Service} {server : Server σ} {a : Address}
  {l : Ledger Int} {initial source target : Int} {all : List (Delta Int)} {n : Nat}
  {answer : Answer} {t : Traffic σ} {u : σ}

theorem outcome_between (h : l.Records initial all) (hk : ∀ v, l.knows v → m.IsElement v)
    (hw : service.policy.Waits t.clock n) (hs : m.IsElement source) (ht : m.IsElement target)
    (ha : service.Reaches "deltas" (some (betweenQuery m source target)) a)
    (hn : n < service.policy.attempts) (htells : l.TellsBetween m source target answer)
    (hr : server.Answers (service.request a) n t.server answer u) :
    (between m service server source target).outcome t =
      (l.between source target).mapError fun _ => .unknownState (.remote "deltas") := by
  cases htells with
  | @deltas ds records answered ms body hb hrecords hbody hms halike =>
    obtain ⟨t', hget, -⟩ := get_of_answers ha hw hn (by decide) hr
    have hds := isWritable_of_between h hk hb
    have hwritten := mapM_eq_ok fun d hd => Delta.toJson_eq_ok (hds d hd)
    cases hrecords.symm.trans hwritten
    have hdeltas : deltasOf m ms = .ok ds := by
      rw [deltasOf, hms]
      exact (Delta.mapM_ofJson_of_alike halike).symm.trans (Delta.mapM_ofJson_record hds)
    have hbetween := between_of_deltasOf hs ht hget hbody hdeltas (linked_of_between h hb).1
      (finish_of_between h hb)
    rw [Session.outcome_of_ok hbetween, hb]
    rfl
  | unknown hb =>
    obtain ⟨t', hget, -⟩ := get_of_answers ha hw hn (by decide) hr
    rw [Session.outcome_of_error (between_of_notFound hs ht hget), hb]
    rfl

theorem outcome_head (hv : m.IsElement l.head) (hw : service.policy.Waits t.clock n)
    (ha : service.Reaches "head" none a) (hn : n < service.policy.attempts)
    (htells : l.TellsHead m answer)
    (hr : server.Answers (service.request a) n t.server answer u) :
    (head m service server).outcome t = .ok l.head := by
  cases htells with
  | @head written ms body hwritten hbody hms =>
    obtain ⟨t', hget, -⟩ := get_of_answers ha hw hn (by decide) hr
    cases hwritten.symm.trans (Modulus.encode_eq_ok hv)
    have hhead : headOf m ms = .ok l.head := by
      rw [headOf, Record.member, hms]
      exact Modulus.decode_written hv
    exact Session.outcome_of_ok (head_of_headOf hget hbody hhead)

/-- For any ledger whose values can be written: the deltas between two elements and the head are the
same from a server that tells them as from the ledger itself, and a state that the ledger does not
know is as unknown to the client. Neither depends on trouble that passes while there are attempts
left and the clock can sleep between them. -/
theorem same_as_local {limit : Option Int} (hstart : Ledger.start initial limit = .ok l)
    (submitted : List (Delta Int)) (hk : ∀ v, (l.submitAll submitted).knows v → m.IsElement v)
    {clock : RetryPolicy.Clock} (hw : service.policy.Waits clock n)
    (hn : n < service.policy.attempts) :
    (∀ source target a answer u t, m.IsElement source → m.IsElement target →
      service.Reaches "deltas" (some (betweenQuery m source target)) a →
      (l.submitAll submitted).TellsBetween m source target answer → t.clock = clock →
      server.Answers (service.request a) n t.server answer u →
        (between m service server source target).outcome t =
          ((l.submitAll submitted).between source target).mapError
            (fun _ => .unknownState (.remote "deltas")) ∧
        ∀ e, (l.submitAll submitted).between source target = .error e →
          ∃ cause, e = .unknownState cause) ∧
    ∀ a answer u t, service.Reaches "head" none a → (l.submitAll submitted).TellsHead m answer →
      t.clock = clock → server.Answers (service.request a) n t.server answer u →
        (head m service server).outcome t = .ok (l.submitAll submitted).head := by
  obtain ⟨hrecords, -⟩ := records_submitAll (records_start hstart) submitted
  constructor
  · intro source target a answer u t hs ht ha htells hclock hr
    subst hclock
    exact ⟨outcome_between hrecords hk hw hs ht ha hn htells hr, fun _ => Ledger.between_eq_error⟩
  · intro a answer u t ha htells hclock hr
    subst hclock
    exact outcome_head (hk _ (knows_head _)) hw ha hn htells hr

/-- Modulo 5, with three attempts: the server fails to answer twice before it tells of two deltas,
of an unknown state, and of the head. -/
theorem same_as_local_five :
    let m : Modulus := ⟨5, by decide⟩
    let first : Delta Int := ⟨1, 2, .ofList [1], ∅, by simp⟩
    let second : Delta Int := ⟨2, 3, .ofList [2], ∅, by simp⟩
    let service : Service := ⟨"https://ledger.example.com/registry-1", 0x4014000000000000, true,
      ⟨3, 0.0, 0.25, by decide⟩⟩
    let server : Server (List Answer) := fun _ answers =>
      (answers.headD (.response 404 []), answers.tail)
    let after (answer : Answer) : Traffic (List Answer) :=
      .start .system [.response 503 [], .failure .readTimeout "timed out", answer]
    let body (v : Json) : Bytes := Bytes.ofText (Json.render true v)
    ∃ l, Ledger.start (1 : Int) none = .ok l ∧
      (∀ v, (l.submitAll [first, second]).knows v → m.IsElement v) ∧
      service.policy.Waits .system 2 ∧
      (between m service server 1 3).outcome
        (after (.response 200 (body (deltasDocument m [first, second])))) = .ok [first, second] ∧
      (between m service server 1 4).outcome (after (.response 404 [])) =
        .error (.unknownState (.remote "deltas")) ∧
      (head m service server).outcome (after (.response 200 (body (headDocument m 3)))) =
        .ok 3 := by
  intro m first second service server after body
  let l : Ledger Int := ⟨none, 1, 0, [], [], [], by simp⟩
  have hstart : Ledger.start 1 none = .ok l := rfl
  have hk : ∀ v, (l.submitAll [first, second]).knows v → m.IsElement v := by
    intro v hv
    have hrecords := (records_submitAll (records_start hstart) [first, second]).1
    have hknown : v = 3 ∨ (∃ d, d ∈ [first, second] ∧ d.source = v) ∨
      ∃ d, d ∈ [first, second] ∧ d.target = v := (knows_iff hrecords v).mp hv
    simp only [List.mem_cons, List.not_mem_nil, or_false, exists_eq_or_imp, exists_eq_left]
      at hknown
    rcases hknown with rfl | (rfl | rfl) | rfl | rfl <;> decide
  have hw : service.policy.Waits .system 2 := RetryPolicy.waits_of_interval (by decide +kernel) _ _
  have hlater (r : Request) (answer : Answer) :
      server.Answers r 2 (after answer).server answer [] :=
    .later rfl rfl (.later rfl rfl (.now rfl))
  have hread (v : Json) (hv : IsDocument m 2 v) : Json.parseBody (body v) = .ok v :=
    Json.parseBody_render (hv.readable (by decide +kernel))
  have hn : 2 < service.policy.attempts := by decide
  refine ⟨l, hstart, hk, hw, ?known, ?unknown, ?head⟩
  case known =>
    have hdeltas : ∀ d ∈ [first, second], d.IsWritable m ∧
        ∀ i, i ∈ d.issued ∨ i ∈ d.revoked → i ∈ IndexSet.upTo 2 := by
      have hall : ∀ d ∈ [first, second], (m.IsElement d.source ∧ m.IsElement d.target) ∧
          ∀ i ∈ d.issued.toList ++ d.revoked.toList, 1 ≤ i ∧ i ≤ 2 := by decide +kernel
      intro d hd
      obtain ⟨hw, hi⟩ := hall d hd
      refine ⟨hw, fun i hmem => IndexSet.mem_upTo.mpr (hi i (List.mem_append.mpr ?_))⟩
      simpa [IndexSet.mem_def] using hmem
    have hrecords : [first, second].mapM (Delta.toJson m) =
        .ok ([first, second].map (Delta.record m)) :=
      mapM_eq_ok fun d hd => Delta.toJson_eq_ok (hdeltas d hd).1
    have hb : (l.submitAll [first, second]).between 1 3 = .ok [first, second] := rfl
    let a : Address := ⟨"https", "", "ledger.example.com", none, "/registry-1/deltas",
      some (betweenQuery m 1 3), none⟩
    have ha : service.Reaches "deltas" (some (betweenQuery m 1 3)) a := by
      constructor <;> decide +kernel
    exact ((same_as_local hstart [first, second] hk hw hn).1 1 3 a _ _ _ (by decide) (by decide) ha
      (.deltas hb hrecords (hread _ (.deltas hdeltas)) rfl
        (List.forall₂_same.mpr fun v _ => .same v)) rfl (hlater _ _)).1
  case unknown =>
    let a : Address := ⟨"https", "", "ledger.example.com", none, "/registry-1/deltas",
      some (betweenQuery m 1 4), none⟩
    have ha : service.Reaches "deltas" (some (betweenQuery m 1 4)) a := by
      constructor <;> decide +kernel
    exact ((same_as_local hstart [first, second] hk hw hn).1 1 4 a _ _ _ (by decide) (by decide) ha
      (.unknown rfl) rfl (hlater _ _)).1
  case head =>
    let a : Address := ⟨"https", "", "ledger.example.com", none, "/registry-1/head", none, none⟩
    have ha : service.Reaches "head" none a := by
      constructor <;> decide +kernel
    have hwritten : m.encode (l.submitAll [first, second]).head = .ok (m.written 3) :=
      Modulus.encode_eq_ok (by decide)
    exact (same_as_local hstart [first, second] hk hw hn).2 a _ _ _ ha
      (.head hwritten (hread _ (.head (by decide))) rfl) rfl (hlater _ _)

/-- A wait that the clock refuses ends the request, whatever the server would tell afterwards. -/
theorem outcome_of_refusal {f : RetryPolicy.WaitFault} (hs : m.IsElement source)
    (ht : m.IsElement target)
    (ha : service.Reaches "deltas" (some (betweenQuery m source target)) a)
    (hr : server.Answers (service.request a) n t.server answer u) (hp : answer.isPassing)
    (hn : n + 1 < service.policy.attempts) (hw : service.policy.Waits t.clock n)
    (hf : service.policy.rest t.clock (1 + n : Nat) = .error f) :
    (between m service server source target).outcome t = .error (.wait f) := by
  obtain ⟨t', hget, -⟩ := get_of_refusal ha hr hp hn hw hf
  exact Session.outcome_of_error (between_of_fault hs ht hget)

/-- A modulus may be too wide for two of its elements to be named in one address. -/
theorem outcome_of_wide (hwide : Address.limit < 4 * m.width + 9) (hs : m.IsElement source)
    (ht : m.IsElement target) (ha : Address.target (service.url "deltas") none = .ok a)
    (t : Traffic σ) :
    ∃ part, (between m service server source target).outcome t =
      .error (.address (.partTooLong part)) := by
  obtain ⟨part, hpart⟩ := Address.target_of_long_query (q := betweenQuery m source target) ha
    (by rwa [length_betweenQuery])
  have hget : service.get server "deltas" (some (betweenQuery m source target)) t =
      .error (.address (.partTooLong part)) t := by
    rw [Service.get, hpart]
    rfl
  exact ⟨part, Session.outcome_of_error (between_of_fault hs ht hget)⟩

theorem three_le_two_pow {k : Nat} (hk : 2 ≤ k) : 3 ≤ 2 ^ k :=
  (by decide : 3 ≤ 2 ^ 2).trans (Nat.pow_le_pow_right (by decide) hk)

theorem limit_lt_of_two_pow {k : Nat} (hk : 131072 ≤ k) (h : 3 ≤ 2 ^ k) :
    Address.limit < 4 * (⟨2 ^ k, h⟩ : Modulus).width + 9 := by
  rw [Modulus.width, Modulus.bits, Nat.log2_two_pow, Address.limit]
  omega

/-- Two ways to come to something else than the ledger itself, which answers that nothing is between
a value and itself: a modulus so wide that the server cannot be asked, and a policy with a wait that
cannot be slept, so that the server is not asked again. -/
theorem apart_from_local :
    let m : Modulus := ⟨5, by decide⟩
    let wide : Modulus := ⟨2 ^ 131072, three_le_two_pow (by decide)⟩
    let service (p : RetryPolicy) : Service :=
      ⟨"https://ledger.example.com/registry-1", 0x4014000000000000, true, p⟩
    let hasty : RetryPolicy := ⟨2, -1.0, 0.25, by decide⟩
    let server : Server (List Answer) := fun _ answers =>
      (answers.headD (.response 404 []), answers.tail)
    let told : Answer := .response 200 (Bytes.ofText (Json.render true (deltasDocument m [])))
    ∃ l, Ledger.start (1 : Int) none = .ok l ∧ l.between 1 1 = .ok [] ∧
      (∀ v, l.knows v → m.IsElement v ∧ wide.IsElement v) ∧
      l.TellsBetween m 1 1 told ∧ l.TellsBetween wide 1 1 told ∧
      (∃ part, (between wide (service .standard) server 1 1).outcome (.start .system [told]) =
        .error (.address (.partTooLong part))) ∧
      hasty.nextInterval 1 = .ok (-1.0) ∧
      (∀ r, server.Answers r 1 [.response 503 [], told] told []) ∧
      (between m (service hasty) server 1 1).outcome (.start .system [.response 503 [], told]) =
        .error (.wait .negative) := by
  intro m wide service hasty server told
  let l : Ledger Int := ⟨none, 1, 0, [], [], [], by simp⟩
  have hone : m.IsElement 1 := by decide
  have hwide : wide.IsElement 1 :=
    ⟨by decide, Nat.one_lt_cast.mpr ((by decide : 1 < 3).trans_le wide.three_le)⟩
  have hknown (v : Int) (hv : l.knows v) : v = 1 := by
    have hrecords := records_start (rfl : Ledger.start (1 : Int) none = .ok l)
    have hcases : v = 1 ∨ (∃ d, d ∈ ([] : List (Delta Int)) ∧ d.source = v) ∨
      ∃ d, d ∈ ([] : List (Delta Int)) ∧ d.target = v := (knows_iff hrecords v).mp hv
    simpa using hcases
  have hdocument : IsDocument m 2 (deltasDocument m []) := .deltas (by simp)
  have hread : Json.parseBody (Bytes.ofText (Json.render true (deltasDocument m []))) =
      .ok (deltasDocument m []) :=
    Json.parseBody_render (hdocument.readable (by decide +kernel))
  have hnone : l.between 1 1 = .ok [] := rfl
  have htells (m' : Modulus) : l.TellsBetween m' 1 1 told := .deltas hnone rfl hread rfl .nil
  have hpassing : (Answer.response 503 []).isPassing := by decide
  refine ⟨l, rfl, hnone, fun v hv => ?known, htells m, htells wide, ?wide, by decide +kernel,
    fun r => .later rfl hpassing (.now rfl), ?hasty⟩
  case known =>
    cases hknown v hv
    exact ⟨hone, hwide⟩
  case wide =>
    have hwidth := limit_lt_of_two_pow (k := 131072) le_rfl (three_le_two_pow (by decide))
    let a : Address := ⟨"https", "", "ledger.example.com", none, "/registry-1/deltas", none, none⟩
    exact outcome_of_wide (a := a) hwidth hwide hwide (by decide +kernel) _
  case hasty =>
    let a : Address := ⟨"https", "", "ledger.example.com", none, "/registry-1/deltas",
      some (betweenQuery m 1 1), none⟩
    have ha : (service hasty).Reaches "deltas" (some (betweenQuery m 1 1)) a := by
      constructor <;> decide +kernel
    exact outcome_of_refusal (n := 0) hone hone ha (.now rfl) hpassing (by decide)
      (fun n hn hle => absurd hn (by omega)) (by decide +kernel)

end RemoteLedger
end Revocation
