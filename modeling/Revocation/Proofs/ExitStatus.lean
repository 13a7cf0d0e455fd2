import Revocation.CommandLine
import Revocation.Proofs.Markup
import Revocation.Proofs.Refusal
import Revocation.Proofs.Serving

/-!
How the refresh command ends. As long as its lines can be shown, it ends with 1 where the library
fails because the credential is revoked, with 0 where the new document is put out, and with 2
otherwise. A line that cannot be shown ends it with 1 whatever has happened. Main statements:
`status_of_run` and `run_of_closing`.
-/
namespace Revocation.CommandLine

def Mishap.isRevocation : Mishap → Bool
  | .failure e => e.isRevocation
  | _ => false

/-- The command never goes wrong in this part because the credential is revoked. -/
abbrev Work.Spares {σ α : Type} (x : Work σ α) : Prop :=
  Session.FailsOnly (fun m => m.isRevocation = false) x

theorem report_of_shows {markup : String} (h : Console.Shows markup) (status : Nat) :
    (report status markup).status = status := by
  obtain ⟨out, h⟩ := h
  rw [report, h]

theorem report_of_not_shows {markup : String} (h : ¬ Console.Shows markup) (status : Nat) :
    report status markup = ⟨1, ""⟩ := by
  cases hp : Console.printed markup with
  | ok out => exact (h ⟨out, hp⟩).elim
  | error f => rw [report, hp]

section

variable {σ : Type}

theorem isRevocation_ofHttp (url : String) (f : Http.Fault) :
    (ofHttp url f).isRevocation = false := by
  cases f <;> rfl

theorem spares_ofDocument (x : Except Json.Fault Json) :
    Work.Spares (MonadExcept.ofExcept (ofDocument x) : Work σ Json) := by
  cases x with
  | ok v => exact Session.failsOnly_pure v
  | error f => exact Session.failsOnly_throw rfl

theorem spares_download (server : Http.Server σ) (source : String) (timeout : Nat) :
    (download server source timeout).Spares := by
  rw [download]
  split
  · refine (Session.failsOnly_pure _).bind fun request => Session.failsOnly_get.bind fun w => ?_
    split
    · exact (Session.failsOnly_set _).bind fun _ =>
        Session.failsOnly_throw (isRevocation_ofHttp _ _)
    · refine (Session.failsOnly_set _).bind fun _ => ?_
      split
      · exact spares_ofDocument _
      · exact Session.failsOnly_throw rfl
  · refine Session.failsOnly_throw_bind ?_ _
    exact isRevocation_ofHttp _ _

theorem spares_readSource (source : String) : (readSource source : Work σ Json).Spares := by
  refine Session.failsOnly_get.bind fun w => ?_
  dsimp only
  split
  · exact Session.failsOnly_throw rfl
  · exact Session.failsOnly_throw rfl
  · split
    · exact spares_ofDocument _
    · exact Session.failsOnly_throw rfl

theorem spares_load (server : Http.Server σ) (input : Bytes) (source : String) (timeout : Nat) :
    (load server input source timeout).Spares := by
  rw [load]
  split
  · refine (spares_ofDocument _).bind fun document => ?_
    cases document with
    | object ms => exact Session.failsOnly_pure ms
    | _ => exact Session.failsOnly_throw rfl
  · split
    · refine (spares_download server source timeout).bind fun document => ?_
      cases document with
      | object ms => exact Session.failsOnly_pure ms
      | _ => exact Session.failsOnly_throw rfl
    · refine (spares_readSource source).bind fun document => ?_
      cases document with
      | object ms => exact Session.failsOnly_pure ms
      | _ => exact Session.failsOnly_throw rfl

end

namespace Refresh

open Http

variable {σ : Type} {server : Server σ} {input : Bytes} {o : RefreshOptions} {w w' : World σ}
  {ms : Json.Members} {m : Mishap} {e : Ending} {args : List String} {text : String}

/-- The library fails because the credential is revoked. -/
def Raises (server : Server σ) (input : Bytes) (o : RefreshOptions) (w : World σ) : Prop :=
  ∃ ms u b y, load server input o.source o.timeout w = .ok ms u ∧
    Binding.parse .standard ms true = .ok (.revocable b) ∧
    refreshed server o ms ([], u.traffic) = .error (.revoked b.witness.index b.registryId) y

/-- The new document has been put out, on the standard output or in the file. -/
def Emits (server : Server σ) (input : Bytes) (o : RefreshOptions) (w : World σ) (e : Ending)
    (w' : World σ) : Prop :=
  ∃ text u, document server input o w = .ok text u ∧ match o.output with
    | none => e.output = text ∧ w' = u
    | some name => ∃ files, u.files.write (Path.ofString name) (Bytes.ofText text) = .ok files ∧
      w' = { u with files }

/-- What the command says at the end can be shown: what has gone wrong, or, where the document has
been put out, the name that it has been put out under. -/
structure Speaks (server : Server σ) (input : Bytes) (o : RefreshOptions) (w : World σ) : Prop where
  mishap : ∀ m u, work server input o w = .error m u →
    m.isRevocation ∨ Console.Shows ("[red]Error:[/] " ++ m.text)
  saved : ∀ name e w', o.output = some name → Emits server input o w e w' →
    Console.Shows ("[green]Witness refreshed[/] -> " ++ name)

theorem mishap_of_revocation (h : m.isRevocation) : (mishap m).status = 1 := by
  cases m with
  | failure f =>
    cases f with
    | revoked i id =>
      rw [mishap, report]
      split <;> rfl
    | _ => cases h
  | _ => cases h

theorem mishap_eq_report (h : m.isRevocation = false) :
    mishap m = report 2 ("[red]Error:[/] " ++ m.text) := by
  rw [mishap.eq_def]
  split
  · cases h
  · rfl

theorem spares_emit (o : RefreshOptions) (text : String) :
    (emit o text : Work σ Ending).Spares := by
  rw [emit.eq_def]
  split
  · exact Session.failsOnly_pure _
  · next name =>
    refine Session.FailsOnly.bind ?_ fun _ => Session.FailsOnly.bind ?_ fun _ =>
      Session.failsOnly_pure _
    · refine Session.failsOnly_get.bind fun w => ?_
      split
      · exact Session.failsOnly_set _
      · exact Session.failsOnly_throw rfl
    · rw [saved]
      split
      · exact Session.failsOnly_pure _
      · exact Session.failsOnly_throw rfl

theorem isRevocation_of_validate {revocable : Bool} {f : Failure}
    (h : Binding.validate ms revocable = .error f) : f.isRevocation = false := by
  rw [Binding.validate] at h
  split at h <;> split at h <;> cases h <;> rfl

theorem isRevocation_of_payload {r : Binding} {f : Failure}
    (h : r.payload Modulus.standard = .error f) : f.isRevocation = false := by
  cases r with
  | nonRevocable =>
    rcases bind_eq_error.mp h with h | ⟨_, -, h⟩
    · exact isRevocation_of_validate h
    · cases h
  | revocable b =>
    rcases bind_eq_error.mp h with h | ⟨witness, -, h⟩
    · rw [Witness.toJson] at h
      cases homega : Modulus.standard.encode b.witness.omega <;> rw [homega] at h <;> cases h
      exact Modulus.isRevocation_of_encode homega
    · rcases bind_eq_error.mp h with h | ⟨reference, -, h⟩
      · exact Modulus.isRevocation_of_encode h
      · rcases bind_eq_error.mp h with h | ⟨_, -, h⟩
        · exact isRevocation_of_validate h
        · cases h

theorem isRevocation_of_updated {r : Binding} {f : Failure} (h : updated ms r = .error f) :
    f.isRevocation = false := by
  cases hp : r.payload Modulus.standard with
  | ok ns =>
    rw [updated, hp] at h
    cases h
  | error f' =>
    rw [updated, hp] at h
    cases h
    exact isRevocation_of_payload hp

theorem spares_document (ms : Json.Members) (r : Binding) : Work.Spares (do
    let v ← Work.ofExcept (updated ms r)
    return Json.render true v ++ "\n" : Work σ String) := by
  cases h : updated ms r with
  | ok v => exact Session.failsOnly_pure _
  | error f =>
    refine Session.failsOnly_throw_bind ?_ _
    exact isRevocation_of_updated h

/-- The command fails because of a revocation where the refresh of the credential does. -/
theorem work_eq_revoked (hm : m.isRevocation) : work server input o w = .error m w' ↔
    ∃ ms u f y, load server input o.source o.timeout w = .ok ms u ∧
      refreshed server o ms ([], u.traffic) = .error f y ∧ m = .failure f ∧
      w' = { u with traffic := y.2 } := by
  have hspares {α : Type} {x : Work σ α} (hx : x.Spares) (u : World σ) : ¬ x u = .error m w' := by
    intro h
    rw [hx u m w' h] at hm
    cases hm
  -- Of the four parts of the work (load, refresh, render, put out) only the refresh is left.
  rw [work_eq, Session.bind_eq_error, or_iff_left (by
    rintro ⟨text, u, -, h⟩
    exact hspares (spares_emit o text) u h), document, Session.bind_eq_error,
    or_iff_right (hspares (spares_load server input o.source o.timeout) w)]
  refine exists_congr fun ms => exists_congr fun u => ?_
  rw [Session.bind_eq_error, or_iff_left (by
    rintro ⟨r, v, -, h⟩
    exact hspares (spares_document ms r) v h), online_eq_error]
  simp only [exists_and_left]

theorem raises_iff : Raises server input o w ↔
    ∃ m u, m.isRevocation ∧ work server input o w = .error m u := by
  constructor
  · rintro ⟨ms, u, b, y, hload, -, hrefreshed⟩
    exact ⟨_, _, rfl, (work_eq_revoked rfl).mpr ⟨ms, u, _, y, hload, hrefreshed, rfl, rfl⟩⟩
  · rintro ⟨m, w', hm, hwork⟩
    obtain ⟨ms, u, f, y, hload, hrefreshed, rfl, -⟩ := (work_eq_revoked hm).mp hwork
    obtain ⟨b, rfl, p, target, value, x, ds, hstarts, -⟩ := (refreshed_eq_revoked hm).mp hrefreshed
    exact ⟨ms, u, b, y, hload, hstarts.binding, hrefreshed⟩

/-- That is where the ledger answers with deltas that revoke the credential. -/
theorem raises_iff_revoked : Raises server input o w ↔
    ∃ ms u b y, load server input o.source o.timeout w = .ok ms u ∧
      Revoked server o ms b u.traffic y := by
  constructor
  · rintro ⟨ms, u, b, y, hload, -, hrefreshed⟩
    obtain ⟨b', -, hrevoked⟩ := (refreshed_eq_revoked rfl).mp hrefreshed
    exact ⟨ms, u, b', y, hload, hrevoked⟩
  · rintro ⟨ms, u, b, y, hload, hrevoked⟩
    have hrefreshed := (refreshed_eq_revoked rfl).mpr ⟨b, rfl, hrevoked⟩
    obtain ⟨p, target, value, x, ds, hstarts, -⟩ := hrevoked
    exact ⟨ms, u, b, y, hload, hstarts.binding, hrefreshed⟩

theorem save_eq_ok {path : Path} {u u' : World σ} : save path text u = .ok () u' ↔
    ∃ files, u.files.write path (Bytes.ofText text) = .ok files ∧ u' = { u with files } := by
  have hget : (get : Work σ (World σ)) u = .ok u u := rfl
  rw [save, Session.bind_of_ok hget]
  cases u.files.write path (Bytes.ofText text) with
  | error f =>
    refine ⟨fun h => (by cases h), ?_⟩
    rintro ⟨files, hwrite, -⟩
    cases hwrite
  | ok files =>
    constructor
    · intro h
      cases h
      exact ⟨files, rfl, rfl⟩
    · rintro ⟨files', hwrite, rfl⟩
      cases hwrite
      rfl

/-- A run in which nothing goes wrong puts the document out and ends with 0. -/
theorem emits_of_work (h : work server input o w = .ok e w') :
    e.status = 0 ∧ Emits server input o w e w' := by
  rw [work_eq] at h
  obtain ⟨text, u, hdocument, hemit⟩ := Session.bind_eq_ok.mp h
  cases ho : o.output with
  | none =>
    rw [emit, ho] at hemit
    cases hemit
    refine ⟨rfl, text, w', hdocument, ?_⟩
    rw [ho]
    exact ⟨rfl, rfl⟩
  | some name =>
    rw [emit, ho] at hemit
    obtain ⟨_, v, hsave, hemit⟩ := Session.bind_eq_ok.mp hemit
    obtain ⟨out, v', hsaved, hlast⟩ := Session.bind_eq_ok.mp hemit
    obtain rfl : v = v' := by
      cases hs : saved name <;> rw [hs] at hsaved <;> cases hsaved
      rfl
    cases hlast
    refine ⟨rfl, text, u, hdocument, ?_⟩
    rw [ho]
    exact save_eq_ok.mp hsave

theorem work_of_emits (hsaved : ∀ name, o.output = some name →
    Console.Shows ("[green]Witness refreshed[/] -> " ++ name)) (h : Emits server input o w e w') :
    ∃ e' u, work server input o w = .ok e' u := by
  obtain ⟨text, u, hdocument, hemits⟩ := h
  rw [work_eq, Session.bind_of_ok hdocument]
  cases ho : o.output with
  | none =>
    rw [emit, ho]
    exact ⟨_, _, rfl⟩
  | some name =>
    rw [ho] at hemits
    obtain ⟨out, hout⟩ := hsaved name ho
    have hok : saved name = .ok out := by rw [saved, hout]
    rw [emit, ho]
    refine ⟨⟨0, out⟩, w', (Session.bind_of_ok (save_eq_ok.mpr hemits) _).trans ?_⟩
    rw [hok]
    rfl

theorem error_line (text : String) : "[red]Error:[/] " ++ text =
    String.ofList (Console.lead "red" "Error:".toList (' ' :: text.toList)) := by
  rw [← String.toList_inj, String.toList_append]
  exact String.toList_ofList.symm

theorem saved_line (name : String) : "[green]Witness refreshed[/] -> " ++ name = String.ofList
    (Console.lead "green" "Witness refreshed".toList (" -> ".toList ++ name.toList)) := by
  rw [← String.toList_inj, String.toList_append]
  exact String.toList_ofList.symm

/-- Messages and names without brackets can be shown. -/
theorem speaks_of_not_mem
    (hmishap : ∀ m u, work server input o w = .error m u → ¬ '[' ∈ m.text.toList)
    (hsaved : ∀ name, o.output = some name → ¬ '[' ∈ name.toList) :
    Speaks server input o w := by
  constructor
  · intro m u hwork
    rw [error_line]
    refine .inr (Console.shows_lead (by decide) (by decide) fun hmem => ?_)
    exact hmishap m u hwork (List.mem_of_ne_of_mem (by decide) hmem)
  · intro name _ _ hname _
    rw [saved_line]
    refine Console.shows_lead (by decide) (by decide) fun hmem => ?_
    exact hsaved name hname ((List.mem_append.mp hmem).resolve_left (by decide))

/-- As long as what it says can be shown, the command ends with 1 where the library fails because
the credential is revoked, which is where the ledger says so; with 0 where the new document is put
out; and with 2 otherwise. -/
theorem status_of_run (hargs : Command.ofArguments w.files args = .ok (.refresh o))
    (hspeaks : Speaks server input o w)
    (h : CommandLine.run server input args w = (e, w')) :
    (e.status = 1 ↔ Raises server input o w) ∧
      (e.status = 0 ↔ Emits server input o w e w') ∧
      (e.status = 2 ↔ ¬ Raises server input o w ∧ ¬ Emits server input o w e w') ∧
      (Raises server input o w ↔ ∃ ms u b y, load server input o.source o.timeout w = .ok ms u ∧
        Revoked server o ms b u.traffic y) := by
  have hrun : run server input o w = (e, w') := by
    rw [CommandLine.run, hargs] at h
    exact h
  suffices (e.status = 1 ↔ Raises server input o w) ∧
      (e.status = 0 ↔ Emits server input o w e w') ∧
      (e.status = 2 ↔ ¬ Raises server input o w ∧ ¬ Emits server input o w e w') from
    ⟨this.1, this.2.1, this.2.2, raises_iff_revoked⟩
  cases hwork : work server input o w with
  | ok e₁ w₁ =>
    rw [run_of_work_ok hwork] at hrun
    cases hrun
    obtain ⟨hstatus, hemits⟩ := emits_of_work hwork
    have hraises : ¬ Raises server input o w := by
      intro hraises
      obtain ⟨m, u, -, herror⟩ := raises_iff.mp hraises
      rw [hwork] at herror
      cases herror
    simp [hstatus, hemits, hraises]
  | error m w₁ =>
    rw [run_of_work_error hwork] at hrun
    cases hrun
    -- With the document put out, only the line that says so could still go wrong.
    have hemits : ¬ Emits server input o w (mishap m) w' := by
      intro hemits
      obtain ⟨e', u, hok⟩ :=
        work_of_emits (fun name ho => hspeaks.saved name _ _ ho hemits) hemits
      rw [hwork] at hok
      cases hok
    cases hm : m.isRevocation with
    | true =>
      have hraises : Raises server input o w := raises_iff.mpr ⟨m, w', hm, hwork⟩
      simp [mishap_of_revocation hm, hemits, hraises]
    | false =>
      have hraises : ¬ Raises server input o w := by
        intro hraises
        obtain ⟨m', u, hm', herror⟩ := raises_iff.mp hraises
        rw [hwork] at herror
        cases herror
        rw [hm] at hm'
        cases hm'
      have hstatus : (mishap m).status = 2 := by
        rw [mishap_eq_report hm]
        refine report_of_shows ((hspeaks.mishap m w' hwork).resolve_left ?_) 2
        rw [hm]
        exact Bool.false_ne_true
      simp [hstatus, hemits, hraises]

/-- The card holds at 20 for index 1, which is revoked on the way to 60. -/
theorem status_of_run_sixty :
    let server : Server (List Answer) := fun _ answers =>
      (answers.headD (.response 404 []), answers.tail)
    let answer (v : Json) : Answer := .response 200 (Bytes.ofText (Json.render true v))
    let m := Modulus.standard
    let d : Delta Int := ⟨20, 60, ∅, .ofList [1], by simp⟩
    let args := ["refresh", "https://issuer.example.com/card", "--ledger",
      "https://ledger.example.com/1", "--tails", "https://tails.example.com/1", "--target", "3c"]
    let o : RefreshOptions := ⟨"https://issuer.example.com/card", "https://ledger.example.com/1",
      "https://tails.example.com/1", some "3c", none, true, 0x403e000000000000, 3⟩
    let card : Json.Members := [
      ("witness", .object [("rev_idx", .string "1"), ("omega", .string "0A")]),
      ("rev_reg_id", .string "7"), ("rev_reg_state", .string "14")]
    let w : World (List Answer) :=
      ⟨.empty, .start .system ([.object card, RemoteLedger.deltasDocument m [d]].map answer)⟩
    Command.ofArguments w.files args = .ok (.refresh o) ∧ Speaks server [] o w ∧
      Raises server [] o w ∧
      ∃ e w', CommandLine.run server [] args w = (e, w') ∧ e.status = 1 := by
  intro server answer m d args o card w
  let b : RevocableBinding := ⟨⟨1, 10⟩, some "7", 20⟩
  let p : RetryPolicy := ⟨3, 0.5, 0.25, by decide⟩
  let at₀ : Address := ⟨"https", "", "issuer.example.com", none, "/card", none, none⟩
  let at₁ : Address := ⟨"https", "", "ledger.example.com", none, "/1/deltas", none, none⟩
  let at₂ : Address := { at₁ with
    query := some (Address.normal Address.keptInQuery (RemoteLedger.betweenQuery m 20 60).toList) }
  let t₁ := w.traffic.exchanged ⟨at₀, o.timeout, none⟩ w.traffic.server.tail
  let t₂ := t₁.exchanged ((ledgerService o p).request at₂) t₁.server.tail
  have hargs : Command.ofArguments w.files args = .ok (.refresh o) := rfl
  have hcard : Json.parseBody (Bytes.ofText (Json.render true (.object card))) =
      .ok (.object card) := by
    refine Json.parseBody_render (show Json.Readable (976 + 4) _ from ⟨by simp [card], ?_⟩)
    simp only [card, List.forall_mem_cons]
    exact ⟨⟨by simp, by simp [Json.Readable]⟩, trivial, trivial, List.forall_mem_nil _⟩
  have hload : load server [] o.source o.timeout w = .ok card { w with traffic := t₁ } :=
    load_of_response (a := at₀) (by decide +kernel) (by decide +kernel) (by decide +kernel)
      (by decide) rfl hcard
  have htarget : Address.target ((ledgerService o p).url "deltas")
      (some (RemoteLedger.betweenQuery m 20 60)) = .ok at₂ :=
    Address.target_withQuery (a := at₁) (by decide +kernel) (by decide +kernel) (by decide +kernel)
      (RemoteLedger.length_betweenQuery_le 20 60)
  have hd : ∀ d' ∈ [d], d'.IsWritable m ∧
      ∀ i, i ∈ d'.issued ∨ i ∈ d'.revoked → i ∈ IndexSet.upTo 2 := by
    refine List.forall_mem_singleton.mpr ⟨⟨by decide +kernel, by decide +kernel⟩, fun i hi => ?_⟩
    rcases hi with hi | hi
    · cases hi
    · rw [List.mem_singleton.mp hi]
      decide
  have hbetween : RemoteLedger.between m (ledgerService o p) server 20 60 t₁ = .ok [d] t₂ :=
    RemoteLedger.between_of_response (by decide +kernel) (by decide +kernel)
      (get_of_response htarget (by decide +kernel) (by decide) rfl)
      (Json.parseBody_render ((IsDocument.deltas hd).readable (by decide +kernel)))
      (fun d' hd' => (hd d' hd').1) ⟨rfl, trivial⟩ rfl
  have hdeltas : (history server o p).between b.reference 60 ([], t₁) = .ok [d] ([], t₂) := by
    rw [history_between]
    exact Session.inner_of_ok hbetween []
  have hstarts : Starts o card b p (some 60) := ⟨by decide +kernel, rfl, by decide +kernel⟩
  have hrevoke : Delta.Revoke [d] b.witness.index :=
    ⟨[], d, [], rfl, by decide, List.forall_mem_nil _⟩
  have hraises : Raises server [] o w := raises_iff_revoked.mpr ⟨card, _, b, _, hload, p, some 60,
    60, ([], t₁), [d], hstarts, ⟨rfl, rfl⟩, hdeltas, hrevoke⟩
  have hspeaks : Speaks server [] o w := by
    obtain ⟨f, u, hf, hwork⟩ := raises_iff.mp hraises
    refine ⟨fun f' u' hwork' => .inl ?_, fun name _ _ hname => by cases hname⟩
    rw [hwork] at hwork'
    cases hwork'
    exact hf
  cases hrun : CommandLine.run server [] args w with
  | mk e w' =>
    exact ⟨hargs, hspeaks, hraises, e, w', rfl, (status_of_run hargs hspeaks hrun).1.mpr hraises⟩

/-- Where the first tag in what the command says closes nothing, it ends with 1 whatever has gone
wrong. -/
theorem run_of_closing (hargs : Command.ofArguments w.files args = .ok (.refresh o))
    (hwork : work server input o w = .error m w') (hm : m.isRevocation = false)
    (before rest : List Char) (hbefore : Console.IsPlain before)
    (htext : m.text.toList = before ++ (Console.closing ++ rest)) :
    CommandLine.run server input args w = (⟨1, ""⟩, w') := by
  have hshows : ¬ Console.Shows ("[red]Error:[/] " ++ m.text) := by
    rw [error_line, htext]
    have hplain : Console.IsPlain (' ' :: before) :=
      List.forall_mem_cons.mpr ⟨by decide, hbefore⟩
    exact Console.not_shows_lead (by decide) (by decide) hplain rest
  rw [CommandLine.run, hargs]
  exact (run_of_work_error hwork).trans
    (congrArg (·, w') ((mishap_eq_report hm).trans (report_of_not_shows hshows 2)))

theorem work_of_parse_error {u : World σ} {f : Failure}
    (hload : load server input o.source o.timeout w = .ok ms u)
    (hparse : Binding.parse .standard ms true = .error f) :
    work server input o w = .error (.failure f) u := by
  have hrefreshed : refreshed server o ms ([], u.traffic) = .error f ([], u.traffic) := by
    rw [refreshed, hparse]
    rfl
  have honline := online_eq_error.mpr ⟨f, _, hrefreshed, rfl, rfl⟩
  rw [work_eq, document, bind_assoc]
  refine (Session.bind_of_ok hload _).trans ?_
  rw [bind_assoc]
  exact Session.bind_of_error honline _

/-- The index of the witness is no number, and nothing is revoked. -/
theorem run_of_closing_index :
    let server : Server Unit := fun _ _ => (.response 404 [], ())
    let args := ["refresh", "-", "--ledger", "http://l", "--tails", "http://t"]
    let o : RefreshOptions := ⟨"-", "http://l", "http://t", none, none, true, 0x403e000000000000, 3⟩
    let input := Bytes.ofText ("\x7b\"witness\":\x7b\"rev_idx\":\"[/]\",\"omega\":\"0A\"\x7d," ++
      "\"rev_reg_id\":\"7\",\"rev_reg_state\":\"14\"\x7d")
    let w : World Unit := ⟨.empty, .start .system ()⟩
    Command.ofArguments w.files args = .ok (.refresh o) ∧
      (CommandLine.run server input args w).1 = ⟨1, ""⟩ ∧ ¬ Raises server input o w := by
  intro server args o input w
  let f : Failure := .missingWitness (.malformed (.notNumeral "[/]"))
  have hargs : Command.ofArguments w.files args = .ok (.refresh o) := rfl
  obtain ⟨ms, u, hload, hparse⟩ := exists_load_of_run' (a := .error f) (show
    (load server input o.source o.timeout >>= fun ms =>
      pure (Binding.parse .standard ms true) : Work Unit _).run' w = _ by decide +kernel)
  have hwork := work_of_parse_error hload hparse
  have hrun := run_of_closing hargs hwork rfl
    "Malformed revocation binding: invalid literal for int() with base 10: '".toList "'".toList
    (by decide) (by decide +kernel)
  refine ⟨hargs, congrArg Prod.fst hrun, fun hraises => ?_⟩
  obtain ⟨ms', u', b, y, hload', hparse', -⟩ := hraises
  rw [hload] at hload'
  cases hload'
  rw [hparse] at hparse'
  cases hparse'

end Refresh
end Revocation.CommandLine
