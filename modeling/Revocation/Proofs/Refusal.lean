import Revocation.Proofs.Boundary
import Revocation.Proofs.RefreshCommand

/-!
When the refresh of a credential fails because the credential is revoked: where the first delta that
mentions its index revokes it. No other part of a refresh fails in this way, whatever comes in.
Main statements: `Recomputer.recompute_eq_revoked`, `RevocableBinding.refresh_eq_revoked` and
`CommandLine.Refresh.refreshed_eq_revoked`.
-/
namespace Revocation

def Failure.isRevocation : Failure → Bool
  | .revoked _ _ => true
  | _ => false

/-- The computation never fails because a credential is revoked. -/
abbrev Session.Spares {σ α : Type} (x : Session σ α) : Prop :=
  FailsOnly (fun e => e.isRevocation = false) x

namespace Modulus

variable {m : Modulus} {a : Int} {e : Failure}

theorem isRevocation_of_encode (h : m.encode a = .error e) : e.isRevocation = false := by
  rw [encode] at h
  split at h
  · cases h
    rfl
  · split at h <;> cases h
    rfl

theorem isRevocation_of_inverse (h : m.inverse a = .error e) : e.isRevocation = false := by
  rw [inverse_eq_orNotInvertible, orNotInvertible.eq_def] at h
  split at h <;> cases h
  rfl

end Modulus

theorem Binding.isRevocation_of_parse {m : Modulus} {ms : Json.Members} {revocable : Bool}
    {e : Failure} (h : parse m ms revocable = .error e) : e.isRevocation = false := by
  rcases parse_eq_error h with ⟨-, cause, rfl⟩ | ⟨-, cause, rfl⟩ | ⟨c, -, rfl⟩ <;> rfl

theorem Http.Service.Exceeds.isRevocation {σ : Type} {service : Service} {server : Server σ}
    {clock : RetryPolicy.Clock} {path : String} {query : Option String} {failed : Fault → Failure}
    {escapes : Bytes → Malformed → Prop} {e : Failure}
    (h : service.Exceeds server clock path query failed escapes e)
    (hfailed : ∀ f, (failed f).isRevocation = false) : e.isRevocation = false := by
  cases h with
  | request _ _ => exact hfailed _
  | body _ _ => rfl

namespace RemoteTails

variable {σ : Type} (m : Modulus) (service : Http.Service) (server : Http.Server σ) (i : Int)

theorem spares_fetch : (fetch m service server i).Spares := by
  rintro ⟨cache, t⟩ e x h
  obtain ⟨-, t', hask, -⟩ := fetch_eq_error.mp h
  have hfailed (f : Http.Fault) : (failed i f).isRevocation = false := by
    cases f with
    | failure kind text =>
      rw [failed]
      split <;> rfl
    | status _ | wait _ | address _ | noServer _ => rfl
  rcases ask_eq_error hask with ⟨cause, rfl⟩ | ⟨cause, rfl⟩ | hexceeds
  · rfl
  · rfl
  · exact hexceeds.isRevocation hfailed

end RemoteTails

namespace RemoteLedger

variable {σ : Type} (m : Modulus) (service : Http.Service) (server : Http.Server σ)

theorem isRevocation_failed (path : String) (f : Http.Fault) :
    (failed path f).isRevocation = false := by
  cases f with
  | failure kind text =>
    rw [failed]
    split <;> rfl
  | status _ | wait _ | address _ | noServer _ => rfl

theorem spares_head : (head m service server).Spares := by
  intro t e t' h
  rcases head_eq_error h with ⟨cause, rfl⟩ | ⟨cause, rfl⟩ | hexceeds
  · rfl
  · rfl
  · exact hexceeds.isRevocation (isRevocation_failed _)

theorem spares_between (source target : Int) : (between m service server source target).Spares := by
  intro t e t' h
  cases ha : m.encode source with
  | error f =>
    rw [between, ha, Session.bind_of_error (Session.ofExcept_error f t)] at h
    cases h
    exact Modulus.isRevocation_of_encode ha
  | ok a =>
    cases hb : m.encode target with
    | error f =>
      rw [between, ha, hb, Session.bind_of_ok (Session.ofExcept_ok a t),
        Session.bind_of_error (Session.ofExcept_error f t)] at h
      cases h
      exact Modulus.isRevocation_of_encode hb
    | ok b =>
      rcases between_eq_error ha hb h with ⟨_, rfl⟩ | ⟨_, rfl⟩ | ⟨_, rfl⟩ | hexceeds
      · rfl
      · rfl
      · rfl
      · exact hexceeds.isRevocation (isRevocation_failed _)

end RemoteLedger

/-- The first of the deltas that mentions the index revokes it. -/
def Delta.Revoke (ds : List (Delta Int)) (i : Int) : Prop :=
  ∃ before d after, ds = before ++ d :: after ∧ i ∈ d.revoked ∧
    ∀ d' ∈ before, ¬ i ∈ d'.issued ∧ ¬ i ∈ d'.revoked

theorem Delta.revoke_cons_iff {d : Delta Int} {ds : List (Delta Int)} {i : Int} :
    Revoke (d :: ds) i ↔ i ∈ d.revoked ∨ (¬ i ∈ d.issued ∧ ¬ i ∈ d.revoked ∧ Revoke ds i) := by
  constructor
  · rintro ⟨before, d', after, heq, hrevoked, hbefore⟩
    cases before with
    | nil =>
      cases heq
      exact .inl hrevoked
    | cons b before =>
      cases heq
      obtain ⟨⟨hissued, hnot⟩, hbefore⟩ := List.forall_mem_cons.mp hbefore
      exact .inr ⟨hissued, hnot, before, d', after, rfl, hrevoked, hbefore⟩
  · rintro (hrevoked | ⟨hissued, hnot, before, d', after, rfl, hrevoked, hbefore⟩)
    · exact ⟨[], d, ds, rfl, hrevoked, List.forall_mem_nil _⟩
    · exact ⟨d :: before, d', after, rfl, hrevoked,
        List.forall_mem_cons.mpr ⟨⟨hissued, hnot⟩, hbefore⟩⟩

namespace Recomputer

variable {σ : Type} {c : Recomputer σ} {w : Witness} {ds : List (Delta Int)}
  {accumulator : Option Int} {registry : Option String} {own : Int} {s t : σ} {e : Failure}

theorem checkOwn_eq_revoked (he : e.isRevocation) :
    checkOwn registry own ds = .error e ↔ Delta.Revoke ds own ∧ e = .revoked own registry := by
  induction ds with
  | nil =>
    refine ⟨nofun, ?_⟩
    rintro ⟨⟨before, d, after, h, -⟩, -⟩
    cases before <;> cases h
  | cons d ds ih =>
    rw [checkOwn, Delta.revoke_cons_iff]
    by_cases hrevoked : own ∈ d.revoked
    · rw [if_pos hrevoked]
      constructor
      · intro h
        cases h
        exact ⟨.inl hrevoked, rfl⟩
      · rintro ⟨-, rfl⟩
        rfl
    · rw [if_neg hrevoked]
      by_cases hissued : own ∈ d.issued
      · rw [if_pos hissued]
        constructor
        · intro h
          cases h
          cases he
        · rintro ⟨h | ⟨h, -⟩, -⟩
          · exact (hrevoked h).elim
          · exact (h hissued).elim
      · rw [if_neg hissued, ih]
        simp only [hrevoked, hissued, not_false_eq_true, true_and, false_or]

theorem spares_absorb (htails : ∀ i, (c.tails i).Spares) (omega : Int) (d : Delta Int) :
    (c.absorb omega d).Spares := by
  refine Session.FailsOnly.bind ?_ fun omega => ?_
  · refine Session.failsOnly_foldlM (fun omega i => (htails i).bind fun a => ?_) _ _
    exact (Session.failsOnly_ofExcept fun _ => Modulus.isRevocation_of_inverse).bind fun _ =>
      Session.failsOnly_pure _
  · exact Session.failsOnly_foldlM
      (fun omega i => (htails i).bind fun a => Session.failsOnly_pure _) _ _

/-- After its checks an update can fail for other causes only. -/
theorem spares_steps (htails : ∀ i, (c.tails i).Spares) (w : Witness) (accumulator : Option Int)
    (ds : List (Delta Int)) : Session.Spares (do
      let omega ← ds.foldlM c.absorb w.omega
      let updated : Witness := ⟨w.index, omega⟩
      let reached ← updated.completed c.modulus c.tails
      if target accumulator ds = some reached then return (updated, reached)
      throw (.updatedWitnessInvalid w.index)) := by
  refine (Session.failsOnly_foldlM (spares_absorb htails) ds w.omega).bind fun omega => ?_
  refine ((htails w.index).bind fun _ => Session.failsOnly_pure _).bind fun reached => ?_
  split
  · exact Session.failsOnly_pure _
  · exact Session.failsOnly_throw rfl

/-- An update along a chain fails because of a revocation where a delta is the first to mention the
own index, and revokes it. -/
theorem recompute_eq_revoked (htails : ∀ i, (c.tails i).Spares)
    (hchain : Delta.checkChain ds accumulator none = .ok ()) (he : e.isRevocation) :
    c.recompute w accumulator ds s = .error e t ↔
      Delta.Revoke ds w.index ∧ e = .revoked w.index c.registry ∧ s = t := by
  rw [recompute, hchain, Session.bind_of_ok (Session.ofExcept_ok () s)]
  cases hown : checkOwn c.registry w.index ds with
  | error f =>
    rw [Session.bind_of_error (Session.ofExcept_error f s)]
    constructor
    · intro h
      cases h
      obtain ⟨hrevoke, heq⟩ := (checkOwn_eq_revoked he).mp hown
      exact ⟨hrevoke, heq, rfl⟩
    · rintro ⟨hrevoke, rfl, rfl⟩
      have hrevoked := (checkOwn_eq_revoked he).mpr ⟨hrevoke, rfl⟩
      rw [hown] at hrevoked
      cases hrevoked
      rfl
  | ok _ =>
    rw [Session.bind_of_ok (Session.ofExcept_ok () s)]
    constructor
    · intro h
      rw [spares_steps htails w accumulator ds s e t h] at he
      cases he
    · rintro ⟨hrevoke, rfl, -⟩
      have hrevoked := (checkOwn_eq_revoked he).mpr ⟨hrevoke, rfl⟩
      rw [hown] at hrevoked
      cases hrevoked

end Recomputer

namespace RevocableBinding

variable {σ : Type} {c : Recomputer σ} {b : RevocableBinding} {ledger : LedgerSource σ}
  {target : Option Int} {s t : σ} {e : Failure}

/-- A refresh from a ledger that checks its chains fails because of a revocation where the deltas
that it gets revoke the credential. -/
theorem refresh_eq_revoked (htails : ∀ i, (c.tails i).Spares) (hhead : ledger.head.Spares)
    (hbetween : ∀ v v', (ledger.between v v').Spares)
    (hchain : ∀ v v' s ds t, ledger.between v v' s = .ok ds t →
      Delta.checkChain ds (some v) none = .ok ()) (he : e.isRevocation) :
    b.refresh c ledger target s = .error e t ↔ e = .revoked b.witness.index c.registry ∧
      ∃ value u ds, Aims ledger target s value u ∧ ledger.between b.reference value u = .ok ds t ∧
        Delta.Revoke ds b.witness.index := by
  constructor
  · intro h
    obtain ⟨value, u, haims⟩ | ⟨f, u, rfl, hf⟩ := exists_aims_or_error ledger target s
    case inr =>
      rw [refresh_of_head_error hf] at h
      cases h
      rw [hhead s _ _ hf] at he
      cases he
    rw [refresh_of_aims haims] at h
    cases hb : ledger.between b.reference value u with
    | error f v =>
      rw [refresh_of_between_error hb] at h
      cases h
      rw [hbetween _ _ u _ _ hb] at he
      cases he
    | ok ds v =>
      cases hr : c.recompute b.witness (some b.reference) ds v with
      | ok x v' =>
        rw [refresh_eq_ok hb hr] at h
        cases h
      | error f v' =>
        rw [refresh_eq_error hb hr] at h
        cases h
        obtain ⟨hrevoke, heq, rfl⟩ :=
          (Recomputer.recompute_eq_revoked htails (hchain _ _ _ _ _ hb) he).mp hr
        exact ⟨heq, value, u, ds, haims, hb, hrevoke⟩
  · rintro ⟨heq, value, u, ds, haims, hb, hrevoke⟩
    rw [refresh_of_aims haims]
    exact refresh_eq_error hb
      ((Recomputer.recompute_eq_revoked htails (hchain _ _ _ _ _ hb) he).mpr ⟨hrevoke, heq, rfl⟩)

end RevocableBinding

namespace CommandLine.Refresh

open Http

variable {σ : Type} {server : Server σ} {o : RefreshOptions} {ms : Json.Members} {p : RetryPolicy}
  {b : RevocableBinding} {target : Option Int} {t : Traffic σ} {e : Failure}
  {y : RemoteTails.Cache × Traffic σ}

theorem checkChain_of_between {v v' : Int} {ds : List (Delta Int)}
    {x y : RemoteTails.Cache × Traffic σ}
    (h : (history server o p).between v v' x = .ok ds y) :
    Delta.checkChain ds (some v) none = .ok () := by
  obtain ⟨cache, t⟩ := x
  rw [history_between] at h
  obtain ⟨u, hanswer, -⟩ := Session.inner_eq_ok.mp h
  exact Delta.checkChain_none (RemoteLedger.checkChain_of_between hanswer)

theorem spares_start (h : Binding.parse .standard ms true = .error e ∨ policyOf o = .error e ∨
    targetOf o = .error e) : e.isRevocation = false := by
  rcases h with h | h | h
  · exact Binding.isRevocation_of_parse h
  · rw [policyOf] at h
    split at h <;> cases h
    rfl
  · rw [targetOf.eq_def] at h
    split at h
    · cases h
    · cases h
    · cases hdecode : Modulus.standard.decode _ <;> rw [hdecode] at h <;> cases h
      rw [Malformed.failure]
      split <;> rfl

/-- The deltas that the ledger answers with revoke the credential. -/
def Revoked (server : Server σ) (o : RefreshOptions) (ms : Json.Members) (b : RevocableBinding)
    (t : Traffic σ) (y : RemoteTails.Cache × Traffic σ) : Prop :=
  ∃ p target value x ds, Starts o ms b p target ∧
    RevocableBinding.Aims (history server o p) target ([], t) value x ∧
    (history server o p).between b.reference value x = .ok ds y ∧ Delta.Revoke ds b.witness.index

theorem refresh_eq_revoked (he : e.isRevocation) :
    b.refresh (recomputer server o p b) (history server o p) target ([], t) = .error e y ↔
      e = .revoked b.witness.index b.registryId ∧ ∃ value x ds,
        RevocableBinding.Aims (history server o p) target ([], t) value x ∧
        (history server o p).between b.reference value x = .ok ds y ∧
        Delta.Revoke ds b.witness.index := by
  have htails (i : Int) : ((recomputer server o p b).tails i).Spares :=
    RemoteTails.spares_fetch _ _ _ i
  have hhead : (history server o p).head.Spares := by
    rw [history_head]
    exact (RemoteLedger.spares_head _ _ _).inner
  have hbetween (v v' : Int) : ((history server o p).between v v').Spares := by
    rw [history_between]
    exact (RemoteLedger.spares_between _ _ _ v v').inner
  exact RevocableBinding.refresh_eq_revoked htails hhead hbetween
    (fun _ _ _ _ _ => checkChain_of_between) he

/-- The refresh of a credential fails because of a revocation where the ledger says that this
credential is revoked. -/
theorem refreshed_eq_revoked (he : e.isRevocation) :
    refreshed server o ms ([], t) = .error e y ↔
      ∃ b, e = .revoked b.witness.index b.registryId ∧ Revoked server o ms b t y := by
  have hrefreshed {b : RevocableBinding} {p : RetryPolicy} {target : Option Int}
      (hs : Starts o ms b p target) : refreshed server o ms ([], t) = .error e y ↔
        b.refresh (recomputer server o p b) (history server o p) target ([], t) = .error e y := by
    rw [refreshed_of_starts hs, Session.bind_eq_error]
    refine or_iff_left ?_
    rintro ⟨b', u, -, h⟩
    cases h
  constructor
  · intro h
    rcases starts_or_error server o ms with ⟨b, p, target, hs⟩ | ⟨f, hf, herror⟩
    · obtain ⟨heq, value, x, ds, haims, hbetween, hrevoke⟩ :=
        (refresh_eq_revoked he).mp ((hrefreshed hs).mp h)
      exact ⟨b, heq, p, target, value, x, ds, hs, haims, hbetween, hrevoke⟩
    · rw [herror] at h
      cases h
      rw [spares_start hf] at he
      cases he
  · rintro ⟨b, heq, p, target, value, x, ds, hs, haims, hbetween, hrevoke⟩
    exact (hrefreshed hs).mpr
      ((refresh_eq_revoked he).mpr ⟨heq, value, x, ds, haims, hbetween, hrevoke⟩)

end CommandLine.Refresh
end Revocation
