import Revocation.CommandLine.Refresh
import Revocation.Proofs.EntryCache
import Revocation.Proofs.Loading
import Revocation.Proofs.Route

/-!
The steps of the refresh command. The members of a credential are loaded, its binding is brought up
to date, and the document with the new binding is put out. Main statements: `refreshed_of_starts`,
`document_eq_ok` and `run_eq_zero_iff`.
-/
namespace Revocation.CommandLine.Refresh

open Http

variable {σ : Type} {server : Server σ} {input : Bytes} {o : RefreshOptions} {ms : Json.Members}
  {b : RevocableBinding} {p : RetryPolicy} {target : Option Int} {w w' : World σ} {text : String}

def tailsService (o : RefreshOptions) (p : RetryPolicy) : Service :=
  ⟨o.tails, o.timeout, o.verify, p⟩

def ledgerService (o : RefreshOptions) (p : RetryPolicy) : Service :=
  ⟨o.ledger, o.timeout, o.verify, p⟩

def recomputer (server : Server σ) (o : RefreshOptions) (p : RetryPolicy) (b : RevocableBinding) :
    Recomputer (RemoteTails.Cache × Traffic σ) :=
  ⟨.standard, RemoteTails.fetch .standard (tailsService o p) server, b.registryId⟩

def history (server : Server σ) (o : RefreshOptions) (p : RetryPolicy) :
    LedgerSource (RemoteTails.Cache × Traffic σ) :=
  (RemoteLedger.source .standard (ledgerService o p) server).inner

theorem history_head (server : Server σ) (o : RefreshOptions) (p : RetryPolicy) :
    (history server o p).head =
      Session.inner (RemoteLedger.head .standard (ledgerService o p) server) := by
  rw [history, LedgerSource.inner, RemoteLedger.source]

theorem history_between (server : Server σ) (o : RefreshOptions) (p : RetryPolicy) (v v' : Int) :
    (history server o p).between v v' =
      Session.inner (RemoteLedger.between .standard (ledgerService o p) server v v') := by
  rw [history, LedgerSource.inner, RemoteLedger.source]

/-- What is known before anything is asked for. -/
structure Starts (o : RefreshOptions) (ms : Json.Members) (b : RevocableBinding) (p : RetryPolicy)
    (target : Option Int) : Prop where
  binding : Binding.parse .standard ms true = .ok (.revocable b)
  policy : policyOf o = .ok p
  target : targetOf o = .ok target

theorem refreshed_of_binding (h : Binding.parse .standard ms true = .ok (.revocable b))
    (server : Server σ) (o : RefreshOptions) :
    refreshed server o ms = (do
      let p ← Session.ofExcept (policyOf o)
      let target ← Session.ofExcept (targetOf o)
      return .revocable (← b.refresh (recomputer server o p b) (history server o p) target)) := by
  funext x
  rw [refreshed, h]
  exact Session.bind_of_ok (Session.ofExcept_ok _ x) _

theorem refreshed_of_starts (h : Starts o ms b p target) (server : Server σ) :
    refreshed server o ms = (do
      return .revocable (← b.refresh (recomputer server o p b) (history server o p) target)) := by
  funext x
  rw [refreshed_of_binding h.binding, h.policy, Session.bind_of_ok (Session.ofExcept_ok p x),
    h.target, Session.bind_of_ok (Session.ofExcept_ok target x)]

theorem exists_revocable_of_parse {m : Modulus} {r : Binding}
    (h : Binding.parse m ms true = .ok r) : ∃ b, r = .revocable b := by
  obtain ⟨_, -, h⟩ := bind_eq_ok.mp h
  obtain ⟨b, -, h⟩ := bind_eq_ok.mp h
  cases h
  exact ⟨b, rfl⟩

/-- Either all that is needed at first is there, or nothing is asked for. -/
theorem starts_or_error (server : Server σ) (o : RefreshOptions) (ms : Json.Members) :
    (∃ b p target, Starts o ms b p target) ∨
      ∃ e, (Binding.parse .standard ms true = .error e ∨ policyOf o = .error e ∨
          targetOf o = .error e) ∧
        ∀ x, refreshed server o ms x = .error e x := by
  cases hb : Binding.parse .standard ms true with
  | error e =>
    refine .inr ⟨e, .inl rfl, fun x => ?_⟩
    rw [refreshed, hb]
    exact Session.bind_of_error (Session.ofExcept_error e x) _
  | ok r =>
    obtain ⟨b, rfl⟩ := exists_revocable_of_parse hb
    cases hp : policyOf o with
    | error e =>
      refine .inr ⟨e, .inr (.inl rfl), fun x => ?_⟩
      rw [refreshed_of_binding hb, hp]
      exact Session.bind_of_error (Session.ofExcept_error e x) _
    | ok p =>
      cases ht : targetOf o with
      | error e =>
        refine .inr ⟨e, .inr (.inr rfl), fun x => ?_⟩
        rw [refreshed_of_binding hb, hp, Session.bind_of_ok (Session.ofExcept_ok p x), ht]
        exact Session.bind_of_error (Session.ofExcept_error e x) _
      | ok target => exact .inl ⟨b, p, target, hb, hp, ht⟩

/-- The text of the credential with its new binding. -/
def document (server : Server σ) (input : Bytes) (o : RefreshOptions) : Work σ String := do
  let ms ← load server input o.source o.timeout
  let r ← online (refreshed server o ms)
  let v ← Work.ofExcept (updated ms r)
  return Json.render true v ++ "\n"

/-- Puts the text out, on the standard output or in a file. -/
def emit (o : RefreshOptions) (text : String) : Work σ Ending :=
  match o.output with
  | none => return ⟨0, text⟩
  | some output => do
    save (Path.ofString output) text
    return ⟨0, ← MonadExcept.ofExcept (saved output)⟩

theorem work_eq (server : Server σ) (input : Bytes) (o : RefreshOptions) :
    work server input o = document server input o >>= emit o := by
  simp only [work, document, bind_assoc, pure_bind]
  rfl

theorem ofExcept_eq_ok {α : Type} {x : Except Failure α} {a : α} :
    Work.ofExcept x w = .ok a w' ↔ x = .ok a ∧ w = w' := by
  cases x with
  | error e => exact ⟨nofun, nofun⟩
  | ok b =>
    constructor
    · intro h
      cases h
      exact ⟨rfl, rfl⟩
    · rintro ⟨h, rfl⟩
      cases h
      rfl

theorem online_eq_ok {α : Type} {run : Session (RemoteTails.Cache × Traffic σ) α} {a : α} :
    online run w = .ok a w' ↔
      ∃ y, run ([], w.traffic) = .ok a y ∧ w' = { w with traffic := y.2 } := by
  rw [online]
  cases run ([], w.traffic) with
  | error e y => simp
  | ok b y =>
    constructor
    · intro h
      cases h
      exact ⟨y, rfl, rfl⟩
    · rintro ⟨y', h, rfl⟩
      cases h
      rfl

theorem online_eq_error {α : Type} {run : Session (RemoteTails.Cache × Traffic σ) α} {m : Mishap} :
    online run w = .error m w' ↔ ∃ f y, run ([], w.traffic) = .error f y ∧ m = .failure f ∧
      w' = { w with traffic := y.2 } := by
  rw [online]
  cases run ([], w.traffic) with
  | ok b y => simp
  | error f y =>
    constructor
    · intro h
      cases h
      exact ⟨f, y, rfl, rfl, rfl⟩
    · rintro ⟨f', y', h, rfl, rfl⟩
      cases h
      rfl

theorem document_eq_ok : document server input o w = .ok text w' ↔
    ∃ ms u r v, load server input o.source o.timeout w = .ok ms u ∧
      online (refreshed server o ms) u = .ok r w' ∧ updated ms r = .ok v ∧
      text = Json.render true v ++ "\n" := by
  constructor
  · intro h
    obtain ⟨ms, u, hload, h⟩ := Session.bind_eq_ok.mp h
    obtain ⟨r, u', honline, h⟩ := Session.bind_eq_ok.mp h
    obtain ⟨v, u'', hupdated, h⟩ := Session.bind_eq_ok.mp h
    obtain ⟨hv, rfl⟩ := ofExcept_eq_ok.mp hupdated
    cases h
    exact ⟨ms, u, r, v, hload, honline, hv, rfl⟩
  · rintro ⟨ms, u, r, v, hload, honline, hv, rfl⟩
    rw [document, Session.bind_of_ok hload, Session.bind_of_ok honline,
      Session.bind_of_ok (ofExcept_eq_ok.mpr ⟨hv, rfl⟩)]
    rfl

/-- A mishap never ends with 0. -/
theorem status_mishap_ne_zero (m : Mishap) : (mishap m).status ≠ 0 := by
  have hreport (status : Nat) (hs : status ≠ 0) (markup : String) :
      (report status markup).status ≠ 0 := by
    rw [report]
    split
    · exact hs
    · exact Nat.one_ne_zero
  rw [mishap.eq_def]
  split
  · exact hreport 1 Nat.one_ne_zero _
  · exact hreport 2 (by decide) _

theorem run_of_work_ok {e : Ending} (h : work server input o w = .ok e w') :
    run server input o w = (e, w') := by
  rw [run, h]

theorem run_of_work_error {m : Mishap} (h : work server input o w = .error m w') :
    run server input o w = (mishap m, w') := by
  rw [run, h]

/-- Without a file to write, the command ends with 0 where there is a document, and puts it out. -/
theorem run_eq_zero_iff (ho : o.output = none) :
    run server input o w = (⟨0, text⟩, w') ↔ document server input o w = .ok text w' := by
  have hemit (text : String) (u : World σ) : emit o text u = .ok ⟨0, text⟩ u := by
    rw [emit, ho]
    rfl
  cases hd : document server input o w with
  | ok text₁ w₁ =>
    have hwork : work server input o w = .ok ⟨0, text₁⟩ w₁ := by
      rw [work_eq, Session.bind_of_ok hd, hemit]
    rw [run_of_work_ok hwork]
    constructor <;> intro h <;> cases h <;> rfl
  | error m w₁ =>
    have hwork : work server input o w = .error m w₁ := by
      rw [work_eq, Session.bind_of_error hd]
    rw [run_of_work_error hwork]
    refine ⟨fun h => (status_mishap_ne_zero m ?_).elim, nofun⟩
    rw [(Prod.mk.inj h).1]

end Revocation.CommandLine.Refresh
