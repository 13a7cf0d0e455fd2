import Revocation.Proofs.Chronicle
import Revocation.Proofs.Retention

/-!
The deltas of a registry as a record of what has become of each index. Main statements: `logs`, by
which an operation that succeeds adds its own delta and nothing else, `Walk.replay_eq`, by which the
deltas alone give the sets of indices, and `Walk.unrepeated`, by which an index is issued once and
revoked once.
-/
namespace Revocation

/-- The issued and the revoked indices after some deltas, going by what these say. -/
def Delta.replay {V : Type} (ds : List (Delta V)) (sets : IndexSet × IndexSet) :
    IndexSet × IndexSet :=
  ds.foldl (fun (issued, revoked) d => ((issued.union d.issued).diff d.revoked,
    revoked.union d.revoked)) sets

namespace Checkpoint

variable {m : Modulus} {entry : Int → Int} {capacity : Nat} {a b : Checkpoint} {d : Delta Int}
  {ds : List (Delta Int)} {i : Int}

theorem Walk.replay_eq (h : Walk m entry capacity a ds b) :
    Delta.replay ds (a.issued, a.revoked) = (b.issued, b.revoked) := by
  induction h with
  | rest c => rfl
  | step first next ih =>
    rw [← ih, first.issued, first.revoked]
    rfl

theorem Advances.remembers (h : a.Advances m entry capacity d b)
    (hi : i ∈ a.issued ∨ i ∈ a.revoked) : i ∈ b.issued ∨ i ∈ b.revoked := by
  by_cases hd : i ∈ d.revoked
  · exact .inr (h.revokes hd).1
  · rcases hi with hi | hi
    · exact .inl (h.keeps hi hd)
    · rw [h.revoked, IndexSet.mem_union]
      exact .inr (.inl hi)

theorem Advances.issues (h : a.Advances m entry capacity d b) (hi : i ∈ d.issued) :
    i ∈ b.issued := by
  rw [h.issued, IndexSet.mem_diff, IndexSet.mem_union]
  exact ⟨.inr hi, d.disjoint i hi⟩

/-- What has been issued or revoked before is not issued any more. -/
theorem Walk.not_mem_issued (h : Walk m entry capacity a ds b) (hi : i ∈ a.issued ∨ i ∈ a.revoked) :
    ∀ d, d ∈ ds → ¬ i ∈ d.issued := by
  induction h with
  | rest c => simp
  | step first next ih =>
    refine List.forall_mem_cons.mpr ⟨fun hd => ?_, ih (first.remembers hi)⟩
    rcases hi with hi | hi
    · exact first.fresh _ hd hi
    · exact first.unspent _ hd hi

theorem Walk.not_mem_revoked (h : Walk m entry capacity a ds b) (hr : i ∈ a.revoked)
    (hi : ¬ i ∈ a.issued) : ∀ d, d ∈ ds → ¬ i ∈ d.revoked := by
  induction h with
  | rest c => simp
  | step first next ih =>
    obtain ⟨hr', hi'⟩ := first.spent hr hi
    exact List.forall_mem_cons.mpr ⟨fun hd => hi (first.held _ hd), ih hr' hi'⟩

theorem Walk.unrepeated (h : Walk m entry capacity a ds b) : Delta.Unrepeated ds := by
  induction h with
  | rest c => exact ⟨.nil, .nil⟩
  | step first next ih =>
    constructor
    -- What the first delta issues stays issued or gets revoked, and what it revokes is spent.
    · refine List.pairwise_cons.mpr ⟨fun e he i hi => ?_, ih.issued⟩
      exact next.not_mem_issued (.inl (first.issues hi)) e he
    · refine List.pairwise_cons.mpr ⟨fun e he i hi => ?_, ih.revoked⟩
      obtain ⟨hr, hgone⟩ := first.revokes hi
      exact next.not_mem_revoked hr hgone e he

theorem Walk.final (h : Walk m entry capacity a ds b) :
    ds.Pairwise fun d e => ∀ i, i ∈ d.revoked → ¬ i ∈ e.issued := by
  induction h with
  | rest c => exact .nil
  | step first next ih =>
    refine List.pairwise_cons.mpr ⟨fun e he i hi => ?_, ih⟩
    exact next.not_mem_issued (.inr (first.revokes hi).1) e he

end Checkpoint

namespace Registry.Call

/-- That a call is an update with these sets. -/
inductive Updates : Call → (issued revoked : IndexSet) → Prop
  | issue (indices : IndexSet) : Updates (.issue indices) indices ∅
  | revoke (indices : IndexSet) : Updates (.revoke indices) ∅ indices
  | update (issued revoked : IndexSet) : Updates (.update issued revoked) issued revoked

/-- That a call assigns this index, or any one where none is named. -/
inductive Assigns : Call → Option Int → Prop
  | assign (index : Option Int) : Assigns (.assign index) index
  | issueCredential (index : Option Int) : Assigns (.issueCredential index) index

variable {σ : Type} {tails : TailsSource σ} {c : Call} {x : Registry × σ}

theorem Updates.perform_eq {issued revoked : IndexSet} (h : c.Updates issued revoked) :
    c.perform tails x = (Registry.update tails issued revoked).after x := by
  cases h <;> exact after_discard _ x

theorem Assigns.registry_perform {index : Option Int} (h : c.Assigns index) :
    (c.perform tails x).1 = ((Registry.assign tails index).after x).1 := by
  cases h with
  | assign => rw [perform, run, after_discard]
  | issueCredential => rw [perform, run, after_discard, after_issueCredential]

end Registry.Call

namespace Chronicle

open Checkpoint

variable {σ : Type} {m : Modulus} {entry : Int → Int} {tails : TailsSource σ} {h : Chronicle σ}
  {c : Registry.Call}

/-- That a call publishes the delta, and no other one. -/
structure Adds (tails : TailsSource σ) (h : Chronicle σ) (c : Registry.Call) (d : Delta Int) :
    Prop where
  appended : h.registry.ledger.append d = .ok (h.record tails c).registry.ledger
  recorded : (h.record tails c).deltas = h.deltas ++ [d]

structure AddsNothing (tails : TailsSource σ) (h : Chronicle σ) (c : Registry.Call) : Prop where
  ledger : (h.record tails c).registry.ledger = h.registry.ledger
  deltas : (h.record tails c).deltas = h.deltas

theorem adds_of_append {d : Delta Int}
    (hd : h.registry.ledger.append d = .ok (c.perform tails (h.registry, h.source)).1.ledger) :
    h.Adds tails c d := by
  have hrecord := record_of_append rfl hd
  constructor
  · rw [hrecord]
    exact hd
  · rw [hrecord]

theorem addsNothing_of_same
    (hl : (c.perform tails (h.registry, h.source)).1.ledger = h.registry.ledger) :
    h.AddsNothing tails c := by
  have hrecord := record_of_same rfl hl
  constructor
  · rw [hrecord]
    exact hl
  · rw [hrecord]

/-- What a call adds to the record, by what becomes of the operation that it performs. -/
structure Logs (tails : TailsSource σ) (h : Chronicle σ) (c : Registry.Call) : Prop where
  update : ∀ issued revoked, c.Updates issued revoked →
    match Registry.update tails issued revoked (h.registry, h.source) with
    | .ok d _ => h.Adds tails c d ∧ d.issued = issued ∧ d.revoked = revoked
    | .error _ _ => h.AddsNothing tails c
  assign : ∀ index, c.Assigns index →
    match Registry.assign tails index (h.registry, h.source), h.registry.issuance with
    | .ok i _, .onDemand => ∃ d, h.Adds tails c d ∧ d.issued = .ofList [i] ∧ d.revoked = ∅
    | .ok _ _, .byDefault => h.AddsNothing tails c
    | .error _ _, _ => h.AddsNothing tails c

theorem logs (hc : tails.Consistent entry h.registry.capacity) (c : Registry.Call) :
    h.Logs tails c := by
  constructor
  · intro issued revoked hcall
    rcases Registry.update_cases hc issued revoked h.source with
      ⟨e, t, hu⟩ | ⟨d, r, t, hu, hissued, hrevoked, hp⟩
    · rw [hu]
      apply addsNothing_of_same
      rw [hcall.perform_eq, Session.after_of_error hu]
    · rw [hu]
      refine ⟨adds_of_append ?_, hissued, hrevoked⟩
      rw [hcall.perform_eq, Session.after_of_ok hu]
      exact hp.ledger
  · intro index hcall
    rcases Registry.assign_cases hc index h.source with
      ⟨e, t, ha⟩ | ⟨i, r, t, ha, -, -, -, ⟨hk, rfl⟩ | ⟨hk, d, hissued, hrevoked, hp⟩⟩
    · rw [ha]
      apply addsNothing_of_same
      rw [hcall.registry_perform, Session.after_of_error ha]
    · -- All indices are issued from the start, so to hand one out changes no set.
      rw [ha, hk]
      apply addsNothing_of_same
      rw [hcall.registry_perform, Session.after_of_ok ha]
      rfl
    · rw [ha, hk]
      refine ⟨d, adds_of_append ?_, hissued, hrevoked⟩
      rw [hcall.registry_perform, Session.after_of_ok ha]
      exact hp.ledger

/-- What the deltas of a registry say of it, given what is issued at the start. -/
structure Faithful (m : Modulus) (entry : Int → Int) (initial : IndexSet) (limit : Option Int)
    (h : Chronicle σ) : Prop where
  replayed : Delta.replay h.deltas (initial, ∅) = (h.registry.issued, h.registry.revoked)
  unrepeated : Delta.Unrepeated h.deltas
  final : h.deltas.Pairwise fun d e => ∀ i, i ∈ d.revoked → ¬ i ∈ e.issued
  fresh : ∀ d, d ∈ h.deltas → ∀ i, i ∈ d.issued → ¬ i ∈ initial
  values : ∀ j d, h.deltas[j]? = some d →
    d.target = m.accumulated entry (Delta.replay (h.deltas.take (j + 1)) (initial, ∅)).1
  retained : h.registry.ledger.Retains (m.accumulated entry initial) limit h.deltas

theorem Sound.faithful {capacity : Nat} {limit : Option Int} {first : Checkpoint}
    (hs : Sound m entry capacity h) (hfirst : h.checkpoints[0]? = some first)
    (hrevoked : first.revoked = ∅) (hlimit : h.registry.ledger.limit = limit.map Int.toNat)
    (hpos : ∀ n ∈ limit, 1 ≤ n) : h.Faithful m entry first.issued limit := by
  have hwalk := hs.walk (Nat.zero_le _) hfirst hs.current
  have hall : h.part 0 h.deltas.length = h.deltas := by simp [part]
  rw [hall] at hwalk
  have hreplay := hwalk.replay_eq
  rw [hrevoked] at hreplay
  refine ⟨hreplay, hwalk.unrepeated, hwalk.final, ?_, ?_, ?_⟩
  · intro d hd i hi hinitial
    exact hwalk.not_mem_issued (.inl hinitial) d hd hi
  · intro j d hd
    obtain ⟨_, b, -, hb, hadv⟩ := hs.advances j d hd
    have hpart := hs.walk (Nat.zero_le _) hfirst hb
    have htake : h.part 0 (j + 1) = h.deltas.take (j + 1) := by simp [part]
    rw [htake] at hpart
    rw [← hrevoked, hpart.replay_eq, hadv.target]
    exact (hs.genuine b (List.mem_of_getElem? hb)).value
  · obtain ⟨c, hc, hrecords⟩ := hs.records
    cases hfirst.symm.trans hc
    rw [(hs.genuine first (List.mem_of_getElem? hfirst)).value] at hrecords
    exact hrecords.retains hlimit hpos

theorem performAll_eq_recordAll (calls : List Registry.Call) (h : Chronicle σ) :
    Registry.performAll tails calls (h.registry, h.source) =
      ((h.recordAll tails calls).registry, (h.recordAll tails calls).source) := by
  induction calls generalizing h with
  | nil => rfl
  | cons c calls ih =>
    rw [Registry.performAll_cons]
    have hrecord : c.perform tails (h.registry, h.source) =
        ((h.record tails c).registry, (h.record tails c).source) := by
      rw [record]
      dsimp only
      split <;> rfl
    rw [hrecord]
    exact ih (h.record tails c)

/-- In every state of a run the deltas tell what has become of each index and what the values of the
accumulator have been, the ledger holds the newest of them, and each further call adds the delta of
its update if this succeeds, and nothing if it fails. -/
theorem faithful_of_run {id : String} {capacity : Nat} {issuance : Issuance} {limit : Option Int}
    {r : Registry} {s t : σ} (hc : tails.Consistent entry capacity)
    (hs : Registry.start m tails id capacity issuance limit s = .ok r t)
    (calls : List Registry.Call) :
    let h := recordAll tails calls (opening r t)
    Registry.performAll tails calls (r, t) = (h.registry, h.source) ∧
      h.Faithful m entry (Registry.initial capacity issuance) limit ∧ ∀ c, h.Logs tails c := by
  have hopening := sound_opening hc hs
  have hsound := hopening.recordAll hc calls
  obtain ⟨head, l, -, -, hl, rfl⟩ := Registry.start_eq_ok hs
  obtain ⟨hlimit, hpos⟩ := Ledger.limit_of_start hl
  have hfaithful := hsound.faithful (getElem?_recordAll rfl calls) rfl
    ((hopening.limit_recordAll hc calls).trans hlimit) hpos
  rw [← hsound.sameCapacity] at hc
  exact ⟨performAll_eq_recordAll calls (opening _ t), hfaithful, logs hc⟩

/-- Three deltas of five calls modulo 15: one batch is refused, and one entry is withheld. -/
theorem faithful_of_run_fifteen :
    let tails := TailsSource.watched [2, 4, 5, 7]
    let entry := TailsSource.entryIn [2, 4, 5, 7]
    let calls : List Registry.Call := [.issue (.ofList [1, 2]), .revoke (.ofList [1, 3]),
      .update ∅ (.ofList [1]), .issueCredential (some 4), .assign none]
    tails.Consistent entry 4 ∧ ∃ r t,
      Registry.start ⟨15, by decide⟩ tails "registry" (4 : Nat) .onDemand (some 2) ⟨[], [4]⟩ =
        .ok r t ∧
      let h := recordAll tails calls (opening r t)
      h.deltas.map Delta.issued = [.ofList [1, 2], ∅, .ofList [3]] ∧
        h.deltas.map Delta.revoked = [∅, .ofList [1], ∅] ∧
        h.Faithful ⟨15, by decide⟩ entry ∅ (some 2) ∧ h.Logs tails (.assign none) := by
  intro tails entry calls
  have hc : tails.Consistent entry 4 := TailsSource.watched_consistent [2, 4, 5, 7]
  have hs : Registry.start ⟨15, by decide⟩ tails "registry" (4 : Nat) .onDemand (some 2) ⟨[], [4]⟩ =
    .ok _ _ := rfl
  obtain ⟨-, hfaithful, hlogs⟩ := faithful_of_run hc hs calls
  refine ⟨hc, _, _, hs, ?issued, ?revoked, hfaithful, hlogs (.assign none)⟩
  case issued => decide +kernel
  case revoked => decide +kernel

end Chronicle
end Revocation
