import Revocation.Proofs.Refresh

/-!
Deltas that a registry has published, in any order, left out or repeated. Values repeat, so a chain
of them need not be a part of the history; it carries witnesses all the same, since each delta is
balanced by itself. Main statements: `Sound.recompute_yields`, by which no such chain makes an
update fail, and `Sound.refresh_eq_error`, which says what is left to fail in a refresh.
-/
namespace Revocation

namespace Ledger

variable {σ : Type} {l : Ledger Int} {source target : Int}

theorem service_between_of_ok {ds : List (Delta Int)} (h : l.between source target = .ok ds)
    (s : σ) : (l.service : LedgerSource σ).between source target s = .ok ds s := by
  change Session.ofExcept (l.between source target) s = _
  rw [h, Session.ofExcept_ok]

theorem service_between_of_error {e : Failure} (h : l.between source target = .error e) (s : σ) :
    (l.service : LedgerSource σ).between source target s = .error e s := by
  change Session.ofExcept (l.between source target) s = _
  rw [h, Session.ofExcept_error]

end Ledger

namespace Chronicle

open Checkpoint Delta Recomputer RevocableBinding

variable {σ τ : Type} {m : Modulus} {entry : Int → Int} {capacity : Nat} {tails : TailsSource σ}
  {h : Chronicle σ} {c : Recomputer τ} {good : τ → Prop} {w : Witness} {b : RevocableBinding}
  {d : Delta Int} {ds : List (Delta Int)} {value : Int}

theorem Sound.exists_advances (hs : Sound m entry capacity h) (hd : d ∈ h.deltas) :
    ∃ x y : Checkpoint, x.Advances m entry capacity d y := by
  obtain ⟨j, hj⟩ := List.mem_iff_getElem?.mp hd
  obtain ⟨x, y, -, -, hadv⟩ := hs.advances j d hj
  exact ⟨x, y, hadv⟩

/-- A valid witness gets over a chain of deltas that the registry has published, whichever they are,
if its own index is not in the way. -/
theorem Sound.recompute_yields (hs : Sound c.modulus entry capacity h)
    (ha : c.tails.Answers entry capacity good)
    (hfetch : (c.tails w.index).Yields good (entry w.index))
    (hw : w.Valid c.modulus entry value) (hlinked : Linked value ds)
    (hds : ∀ d, d ∈ ds → d ∈ h.deltas) (hown : checkOwn c.registry w.index ds = .ok ()) :
    ∃ w' : Witness, w'.index = w.index ∧ w'.Valid c.modulus entry (finish value ds) ∧
      (c.recompute w (some value) ds).Yields good (w', finish value ds) := by
  have hbalanced : ∀ d, d ∈ ds → d.Balanced c.modulus entry := by
    intro d hd
    obtain ⟨x, y, hadv⟩ := hs.exists_advances (hds d hd)
    exact hadv.balanced
  have hfetches : ∀ d, d ∈ ds → ∀ i, i ∈ d.issued ∨ i ∈ d.revoked →
      (c.tails i).Yields good (entry i) := by
    intro d hd i hi
    obtain ⟨x, y, hadv⟩ := hs.exists_advances (hds d hd)
    exact ha i (hadv.inRange i hi)
  have hvalue : c.modulus.IsResidue value := hw ▸ c.modulus.isResidue_combine _ _
  have hresidue := isResidue_finish hlinked hbalanced hvalue
  obtain ⟨omega, -, hvalid, hyields⟩ :=
    recompute_yields_of_balanced hw hlinked hbalanced hresidue hown hfetch hfetches
  exact ⟨⟨w.index, omega⟩, rfl, hvalid, hyields⟩

/-- A refresh of a valid binding fails for want of a way, or because its own index is in the way. -/
theorem Sound.refresh_eq_error (hs : Sound c.modulus entry capacity h)
    (ha : c.tails.Answers entry capacity good)
    (hfetch : (c.tails b.witness.index).Yields good (entry b.witness.index))
    (hw : b.witness.Valid c.modulus entry b.reference) (target : Option Int) {s : τ} {e : Failure}
    (hgood : good s) (he : (b.refresh c h.registry.ledger.service target).outcome s = .error e) :
    (∃ cause, e = .unknownState cause) ∨ e = .revoked b.witness.index c.registry ∨
      e = .inconsistent (.issuesOwn b.witness.index) := by
  obtain ⟨_, -, hrecords⟩ := hs.records
  obtain ⟨t, he⟩ := Session.outcome_eq_error.mp he
  have hnamed : ∃ value, b.refresh c h.registry.ledger.service (some value) s = .error e t := by
    cases target with
    | none => exact ⟨h.registry.ledger.head, by rwa [← refresh_none rfl]⟩
    | some value => exact ⟨value, he⟩
  obtain ⟨value, he⟩ := hnamed
  cases hb : h.registry.ledger.between b.reference value with
  | error _ =>
    rw [refresh_of_between_error (Ledger.service_between_of_error hb s)] at he
    cases he
    exact .inl (Ledger.between_eq_error hb)
  | ok ds =>
    -- The answer is a chain of published deltas, so only its mentions of the index are left to fail.
    obtain ⟨hlinked, hds⟩ := Ledger.linked_of_between hrecords hb
    have hbetween := Ledger.service_between_of_ok hb s
    cases hown : checkOwn c.registry b.witness.index ds with
    | error _ =>
      rw [RevocableBinding.refresh_eq_error hbetween (recompute_eq_error hlinked hown s)] at he
      cases he
      exact .inr (checkOwn_eq_error hown)
    | ok _ =>
      obtain ⟨_, -, -, hyields⟩ := hs.recompute_yields ha hfetch hw hlinked hds hown
      obtain ⟨u, hu, -⟩ := hyields s hgood
      rw [refresh_eq_ok hbetween hu] at he
      cases he

/-- Deltas that a registry has published never make a valid witness fail, in whatever chain they
come, unless they mention its index; and a refresh by its ledger fails for that only, or where there
is no way. -/
theorem recompute_of_published (hrun : IsRun tails m capacity h)
    (hc : tails.Consistent entry capacity) (hm : c.modulus = m)
    (ha : c.tails.Answers entry capacity good) :
    (∀ w value ds, (c.tails w.index).Yields good (entry w.index) → w.Valid m entry value →
      (∀ d, d ∈ ds → d ∈ h.deltas) → checkChain ds (some value) none = .ok () →
      (∀ d, d ∈ ds → ¬ w.index ∈ d.issued ∧ ¬ w.index ∈ d.revoked) →
        ∃ w' : Witness, w'.index = w.index ∧ w'.Valid m entry (finish value ds) ∧
          (c.recompute w (some value) ds).Yields good (w', finish value ds)) ∧
    ∀ (b : RevocableBinding) target s e,
      (c.tails b.witness.index).Yields good (entry b.witness.index) →
      b.witness.Valid m entry b.reference → good s →
      (b.refresh c h.registry.ledger.service target).outcome s = .error e →
        (∃ cause, e = .unknownState cause) ∨ e = .revoked b.witness.index c.registry ∨
          e = .inconsistent (.issuesOwn b.witness.index) := by
  subst hm
  have hs := sound_of_isRun hrun hc
  constructor
  · intro w value ds hfetch hw hds hchain hapart
    exact hs.recompute_yields ha hfetch hw (linked_of_checkChain hchain) hds
      (checkOwn_eq_ok hapart)
  · intro b target s e hfetch hw hgood he
    exact hs.refresh_eq_error ha hfetch hw target hgood he

/-- Modulo 15 most of these deltas lead from 5 to 5, so they may come in any order; the entry of the
witness has no inverse. -/
theorem recompute_of_published_fifteen :
    let m : Modulus := ⟨15, by decide⟩
    let tails : TailsSource Unit := .ofList [5, 4, 7, 2]
    let c : Recomputer Unit := ⟨m, tails, some "registry"⟩
    let entry := TailsSource.entryIn [5, 4, 7, 2]
    let first : Delta Int := ⟨5, 10, .ofList [4], ∅, by simp⟩
    let second : Delta Int := ⟨10, 5, ∅, .ofList [4], by simp⟩
    let third : Delta Int := ⟨5, 5, ∅, .ofList [2], by simp⟩
    let ds := [third, first, second, third, ⟨5, 5, .ofList [3], ∅, by simp⟩]
    let b : RevocableBinding := ⟨⟨4, 5⟩, some "registry", 10⟩
    ∃ h, IsRun tails m 4 h ∧ (∀ d, d ∈ ds → d ∈ h.deltas) ∧
      (∃ w' : Witness, w'.index = 1 ∧ w'.Valid m entry 5 ∧
        (c.recompute ⟨1, 1⟩ (some 5) ds).Yields (fun _ => True) (w', 5)) ∧
      ∃ e, (b.refresh c h.registry.ledger.service none).outcome () = .error e ∧
        ((∃ cause, e = .unknownState cause) ∨ e = .revoked 4 (some "registry") ∨
          e = .inconsistent (.issuesOwn 4)) := by
  intro m tails c entry first second third ds b
  have hs : Registry.start m tails "registry" 4 .onDemand none () = .ok _ () := rfl
  let calls : List Registry.Call := [.issue (.ofList [1, 2]), .issue (.ofList [3]),
    .revoke (.ofList [2]), .issue (.ofList [4]), .revoke (.ofList [4])]
  have hrun : IsRun tails m 4 (recordAll tails calls (opening _ ())) :=
    ⟨"registry", .onDemand, none, (), _, (), calls, hs, rfl⟩
  have ha := TailsSource.ofList_answers [5, 4, 7, 2] fun _ : Unit => True
  obtain ⟨hrecompute, hrefresh⟩ := recompute_of_published (c := c) hrun ha.consistent rfl ha
  refine ⟨_, hrun, ?published, ?recomputed, .revoked 4 (some "registry"), ?refused, ?expected⟩
  case recomputed =>
    exact hrecompute ⟨1, 1⟩ 5 ds (ha 1 (by decide)) (by decide) ?published (by decide +kernel)
      (by decide)
  case expected =>
    exact hrefresh b none () _ (ha 4 (by decide)) (by decide) trivial ?refused
  case published => decide +kernel
  case refused => decide +kernel

end Chronicle
end Revocation
