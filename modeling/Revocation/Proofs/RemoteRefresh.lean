import Mathlib.Algebra.Field.ZMod
import Revocation.Proofs.Refresh
import Revocation.Proofs.Serving

/-!
Refreshing a binding over the network while the issuer goes on working. The head and the deltas are
asked for one after the other, so the deltas may be looked up in a later history than the one that
the head was the end of. Main statements: `fetch_answers` and `exists_between`, by which neither
the entries nor, where all deltas are retained, the history can be missing.
-/
namespace Revocation

namespace Chronicle

open Checkpoint

variable {σ : Type} {m : Modulus} {entry : Int → Int} {capacity : Nat} {tails : TailsSource σ}
  {h : Chronicle σ} {x y : Checkpoint} {j k : Nat}

theorem isElement_accumulated (hp : m.value.Prime)
    (he : ∀ i, i ∈ IndexSet.upTo capacity → m.IsElement (entry i)) {s : IndexSet}
    (hs : ∀ i, i ∈ s → i ∈ IndexSet.upTo capacity) : m.IsElement (m.accumulated entry s) := by
  have hfact : Fact m.value.Prime := ⟨hp⟩
  have hne : (m.accumulated entry s : ZMod m.value) ≠ 0 := by
    rw [Modulus.cast_accumulated]
    refine Finset.prod_ne_zero_iff.mpr fun i hi hzero => ?_
    obtain ⟨h0, hlt⟩ := he i (hs i hi)
    have := Int.le_of_dvd h0 ((ZMod.intCast_zmod_eq_zero_iff_dvd _ _).mp hzero)
    omega
  obtain ⟨hnonneg, hlt⟩ := m.isResidue_accumulated entry s
  refine ⟨lt_of_le_of_ne hnonneg fun hzero => hne ?_, hlt⟩
  rw [← hzero, Int.cast_zero]

theorem Sound.isElement (hs : Sound m entry capacity h) (hp : m.value.Prime)
    (he : ∀ i, i ∈ IndexSet.upTo capacity → m.IsElement (entry i)) (hx : x ∈ h.checkpoints) :
    m.IsElement x.value := by
  have hgenuine := hs.genuine x hx
  rw [hgenuine.value]
  exact isElement_accumulated hp he hgenuine.inRange

theorem Sound.isWritable (hs : Sound m entry capacity h) (hp : m.value.Prime)
    (he : ∀ i, i ∈ IndexSet.upTo capacity → m.IsElement (entry i)) {d : Delta Int}
    (hd : d ∈ h.deltas) : d.IsWritable m := by
  obtain ⟨j, hj⟩ := List.mem_iff_getElem?.mp hd
  obtain ⟨a, b, ha, hb, hadvances⟩ := hs.advances j d hj
  rw [Delta.IsWritable, hadvances.source, hadvances.target]
  exact ⟨hs.isElement hp he (List.mem_of_getElem? ha), hs.isElement hp he (List.mem_of_getElem? hb)⟩

/-- Where all deltas are retained, an earlier checkpoint leads to a later one. -/
theorem Sound.exists_between (hs : Sound m entry capacity h)
    (hlimit : h.registry.ledger.limit = none) (hkj : k ≤ j) (hx : h.checkpoints[k]? = some x)
    (hy : h.checkpoints[j]? = some y) :
    ∃ ds, h.registry.ledger.between x.value y.value = .ok ds := by
  obtain ⟨c, hc, hrecords⟩ := hs.records
  have hbase : h.registry.ledger.base = 0 := by
    rw [hrecords.base, hlimit]
    rfl
  have hlength := hs.length
  have hknows : ∀ (i : Nat) (z : Checkpoint), h.checkpoints[i]? = some z →
      h.registry.ledger.knows z.value := by
    intro i z hz
    have hi := (List.getElem?_eq_some_iff.mp hz).1
    exact (Ledger.knows_iff_checkpoint hrecords _).mpr
      ⟨i, by omega, by omega, (hs.value_eq hc hz).symm⟩
  refine Ledger.exists_between hrecords (hknows k x hx) (hknows j y hy) ?_
  rcases Nat.lt_or_eq_of_le hkj with hlt | rfl
  · have hj := (List.getElem?_eq_some_iff.mp hy).1
    have hk : k < h.deltas.length := by omega
    have hj' : j - 1 < h.deltas.length := by omega
    obtain ⟨a, _, ha, -, hstart⟩ := hs.advances k _ (List.getElem?_eq_getElem hk)
    obtain ⟨_, b, -, hb, hstop⟩ := hs.advances (j - 1) _ (List.getElem?_eq_getElem hj')
    rw [Nat.sub_add_cancel (by omega)] at hb
    cases hx.symm.trans ha
    cases hy.symm.trans hb
    refine .inr ⟨k, j - 1, ⟨by omega, by omega, ?_, ?_⟩⟩
    · exact ⟨_, List.getElem?_eq_getElem hk, hstart.source⟩
    · exact ⟨_, List.getElem?_eq_getElem hj', hstop.target⟩
  · cases hx.symm.trans hy
    exact .inl rfl

/-- Looking up an entry changes nothing but the issuer's source. -/
theorem Sound.withSource (hs : Sound m entry capacity h) (s : σ) :
    Sound m entry capacity { h with source := s } :=
  ⟨hs.sameModulus, hs.sameCapacity, hs.coherent, hs.length, hs.current, hs.genuine, hs.advances,
    hs.records⟩

end Chronicle

open Chronicle RemoteLedger RemoteTails

variable {σ : Type} {m : Modulus} {entry : Int → Int} {capacity : Nat} {tails : TailsSource σ}
  {site : Site} {t : Http.Traffic (Issuer σ)}

theorem Issuer.proceed_sound {x : Issuer σ} (hc : tails.Consistent entry capacity)
    (hs : Sound m entry capacity x.chronicle) :
    Sound m entry capacity (x.proceed tails).chronicle := by
  rw [proceed]
  split
  · exact hs
  · exact hs.recordAll hc _

theorem Issuer.getElem?_proceed (tails : TailsSource σ) {x : Issuer σ} {k : Nat} {z : Checkpoint}
    (hz : x.chronicle.checkpoints[k]? = some z) :
    (x.proceed tails).chronicle.checkpoints[k]? = some z := by
  rw [proceed]
  split
  · exact hz
  · exact getElem?_recordAll hz _

theorem Issuer.limit_proceed {x : Issuer σ} (hc : tails.Consistent entry capacity)
    (hs : Sound m entry capacity x.chronicle) :
    (x.proceed tails).chronicle.registry.ledger.limit = x.chronicle.registry.ledger.limit := by
  rw [proceed]
  split
  · rfl
  · exact hs.limit_recordAll hc _

namespace Site

theorem get_of_answer {service : Http.Service} {path : String} {query : Option String}
    {a : Http.Address} {e : Endpoint} {status : Nat} {body : Bytes} {h : Chronicle σ}
    (ha : Http.Address.target (service.url path) query = .ok a) (hab : a.isAbsolute)
    (hr : site.route a = some e) (hstatus : status < 500)
    (hanswer : site.answer tails (t.server.proceed tails).chronicle e =
      (.response status body, h)) :
    ∃ t', service.get (site.server tails) path query t = .ok ⟨status, body⟩ t' ∧
      t'.server = { t.server.proceed tails with chronicle := h } :=
  ⟨_, Http.get_of_response ha hab hstatus (server_apply hr hanswer), rfl⟩

variable (hserves : site.Serves m capacity)
include hserves

theorem head_eq_ok (hs : Sound m entry capacity (t.server.proceed tails).chronicle)
    (hv : m.IsElement (t.server.proceed tails).chronicle.registry.accumulator) :
    ∃ t', head m site.ledger (site.server tails) t =
        .ok (t.server.proceed tails).chronicle.registry.accumulator t' ∧
      t'.server = t.server.proceed tails := by
  obtain ⟨a, ha, hab, hr⟩ := hserves.head
  obtain ⟨t', hget, hserver⟩ :=
    get_of_answer ha hab hr (by decide) (answer_head hs.sameModulus hv)
  exact ⟨t', head_of_response hget (hserves.reads _ (.head hv)) hv, hserver⟩

variable {v w : Int} (hv : m.IsElement v) (hw : m.IsElement w)
include hv hw

theorem between_eq_ok (hs : Sound m entry capacity (t.server.proceed tails).chronicle)
    {ds : List (Delta Int)}
    (hb : (t.server.proceed tails).chronicle.registry.ledger.between v w = .ok ds)
    (hds : ∀ d, d ∈ ds → d.IsWritable m ∧
      ∀ i, i ∈ d.issued ∨ i ∈ d.revoked → i ∈ IndexSet.upTo capacity)
    (hlinked : Delta.Linked v ds) (hfinish : Delta.finish v ds = w) :
    ∃ t', between m site.ledger (site.server tails) v w t = .ok ds t' ∧
      t'.server = t.server.proceed tails := by
  obtain ⟨a, ha, hab, hr⟩ := hserves.deltas v w hv hw
  have hanswer : site.answerDeltas _ _ _ = _ :=
    answerDeltas_of_ok hs.sameModulus hv hw hb fun d hd => (hds d hd).1
  obtain ⟨t', hget, hserver⟩ := get_of_answer ha hab hr (by decide)
    (congrArg (·, (t.server.proceed tails).chronicle) hanswer)
  exact ⟨t', between_of_response hv hw hget (hserves.reads _ (.deltas hds))
    (fun d hd => (hds d hd).1) hlinked hfinish, hserver⟩

theorem between_eq_error (hs : Sound m entry capacity (t.server.proceed tails).chronicle)
    {e : Failure}
    (hb : (t.server.proceed tails).chronicle.registry.ledger.between v w = .error e) :
    ∃ t', between m site.ledger (site.server tails) v w t =
      .error (.unknownState (.remote "deltas")) t' := by
  obtain ⟨a, ha, hab, hr⟩ := hserves.deltas v w hv hw
  have hanswer : site.answerDeltas _ _ _ = _ := answerDeltas_of_error hs.sameModulus hv hw hb
  obtain ⟨t', hget, -⟩ := get_of_answer ha hab hr (by decide)
    (congrArg (·, (t.server.proceed tails).chronicle) hanswer)
  exact ⟨t', between_of_notFound hv hw hget⟩

omit hv hw

theorem ask_eq_ok (hs : Sound m entry capacity (t.server.proceed tails).chronicle)
    (ha : tails.Answers entry capacity fun _ => True) {i : Int} (hi : i ∈ IndexSet.upTo capacity)
    (hentry : m.IsElement (entry i)) :
    ∃ t', ask m site.tails (site.server tails) i t = .ok (entry i) t' ∧
      Sound m entry capacity t'.server.chronicle := by
  obtain ⟨a, htarget, hab, hr⟩ := hserves.entry i hi
  obtain ⟨s, hf, -⟩ := ha i hi (t.server.proceed tails).chronicle.source trivial
  have hi' : i ∈ IndexSet.upTo (t.server.proceed tails).chronicle.registry.capacity := by
    rw [hs.sameCapacity]
    exact hi
  obtain ⟨t', hget, hserver⟩ := get_of_answer htarget hab hr (by decide)
    (answer_entry hs.sameModulus hi' hentry hf)
  refine ⟨t', ask_of_response hget (hserves.reads _ (.entry hi hentry)) hentry, ?_⟩
  rw [hserver]
  exact hs.withSource s

end Site

/-- The entries at hand are genuine, and so is the registry behind the servers. -/
structure InOrder (m : Modulus) (entry : Int → Int) (capacity : Nat)
    (x : Cache × Http.Traffic (Issuer σ)) : Prop where
  cache : ∀ i a, List.lookup i x.1 = some a → a = entry i
  server : Sound m entry capacity x.2.server.chronicle

theorem fetch_answers (hserves : site.Serves m capacity)
    (ha : tails.Answers entry capacity fun _ => True)
    (hentry : ∀ i, i ∈ IndexSet.upTo capacity → m.IsElement (entry i)) :
    (fetch m site.tails (site.server tails)).Answers entry capacity (InOrder m entry capacity) := by
  rintro i hi ⟨cache, t⟩ hgood
  rw [fetch, Session.bind_apply, Session.get_apply]
  dsimp only
  cases hl : List.lookup i cache with
  | some a => exact ⟨_, congrArg (EStateM.Result.ok · _) (hgood.cache i a hl), hgood⟩
  | none =>
    have hs := Issuer.proceed_sound ha.consistent hgood.server
    obtain ⟨t', hask, hs'⟩ := Site.ask_eq_ok hserves hs ha hi (hentry i hi)
    refine ⟨((i, entry i) :: cache, t'), ?_, ?_, hs'⟩
    · exact (Session.bind_of_ok (Session.inner_of_ok hask cache) _).trans rfl
    · intro k a hk
      rw [List.lookup_cons] at hk
      split at hk
      · next heq =>
        cases hk
        rw [eq_of_beq heq]
      · exact hgood.cache k a hk

/-- What a holder updates witnesses with who has the entries from a server. -/
def Site.recomputer (site : Site) (tails : TailsSource σ) (m : Modulus) (registry : Option String) :
    Recomputer (Cache × Http.Traffic (Issuer σ)) :=
  ⟨m, fetch m site.tails (site.server tails), registry⟩

def Site.history (site : Site) (tails : TailsSource σ) (m : Modulus) :
    LedgerSource (Cache × Http.Traffic (Issuer σ)) :=
  (RemoteLedger.source m site.ledger (site.server tails)).inner

theorem Site.history_head : (site.history tails m).head =
    Session.inner (RemoteLedger.head m site.ledger (site.server tails)) := by
  rw [history, LedgerSource.inner, RemoteLedger.source]

theorem Site.history_between (v w : Int) : (site.history tails m).between v w =
    Session.inner (RemoteLedger.between m site.ledger (site.server tails) v w) := by
  rw [history, LedgerSource.inner, RemoteLedger.source]

namespace Chronicle

variable {h : Chronicle σ} {b : RevocableBinding} {x y : Checkpoint} {j k : Nat}
  {cache : Cache} {registry : Option String}

section

variable (hp : m.value.Prime) (hentry : ∀ i, i ∈ IndexSet.upTo capacity → m.IsElement (entry i))
  (hfree : m.CollisionFree entry capacity)
  (hs : Sound m entry capacity (t.server.proceed tails).chronicle)
  (hx : (t.server.proceed tails).chronicle.checkpoints[k]? = some x)
  (hy : (t.server.proceed tails).chronicle.checkpoints[j]? = some y) (href : b.reference = x.value)
include hp hentry hfree hs hx hy href

theorem refuses_iff_between :
    site.Refuses (t.server.proceed tails).chronicle.registry b.reference y.value ↔
      ∃ e, (t.server.proceed tails).chronicle.registry.ledger.between b.reference y.value =
        .error e := by
  have hv := hs.isElement hp hentry (List.mem_of_getElem? hx)
  have hw := hs.isElement hp hentry (List.mem_of_getElem? hy)
  rw [href]
  refine Site.refuses_iff hs.sameModulus hv hw fun ds hds d hd => ?_
  obtain ⟨_, _, -, -, -, -, -, -, hmem⟩ := hs.walk_of_between hfree hx hy hds
  exact hs.isWritable hp hentry (hmem d hd)

variable (hserves : site.Serves m capacity)
include hserves

theorem refresh_of_refusal
    (hr : site.Refuses (t.server.proceed tails).chronicle.registry b.reference y.value) :
    ∃ u, b.refresh (site.recomputer tails m registry) (site.history tails m) (some y.value)
      (cache, t) = .error (.unknownState (.remote "deltas")) u := by
  obtain ⟨e, he⟩ := (refuses_iff_between hp hentry hfree hs hx hy href).mp hr
  have hv := hs.isElement hp hentry (List.mem_of_getElem? hx)
  have hw := hs.isElement hp hentry (List.mem_of_getElem? hy)
  rw [← href] at hv
  obtain ⟨t', hbetween⟩ := Site.between_eq_error hserves hv hw hs he
  have hinner := Session.inner_of_error hbetween cache
  rw [← Site.history_between] at hinner
  exact ⟨_, RevocableBinding.refresh_of_between_error hinner⟩

variable (hr : ¬ site.Refuses (t.server.proceed tails).chronicle.registry b.reference y.value)
include hr

/-- What comes of a lookup that is answered: a walk between the issued sets that were meant. -/
theorem exists_walk : ∃ a z ds t', Checkpoint.Walk m entry capacity a ds z ∧
    z.Genuine m entry capacity ∧ a.value = b.reference ∧ z.value = y.value ∧
    a.issued = x.issued ∧ z.issued = y.issued ∧
    (site.history tails m).between b.reference y.value (cache, t) = .ok ds (cache, t') ∧
    t'.server = t.server.proceed tails := by
  have hv := hs.isElement hp hentry (List.mem_of_getElem? hx)
  have hw := hs.isElement hp hentry (List.mem_of_getElem? hy)
  rw [← href] at hv
  rw [refuses_iff_between hp hentry hfree hs hx hy href] at hr
  cases hb : (t.server.proceed tails).chronicle.registry.ledger.between b.reference y.value with
  | error e => exact (hr ⟨e, hb⟩).elim
  | ok ds =>
    have hb' := hb
    rw [href] at hb'
    obtain ⟨a, z, hwalk, hz, hav, hzv, hai, hzi, hmem⟩ := hs.walk_of_between hfree hx hy hb'
    have hdeltas : ∀ d, d ∈ ds → d.IsWritable m ∧
        ∀ i, i ∈ d.issued ∨ i ∈ d.revoked → i ∈ IndexSet.upTo capacity :=
      fun d hd => ⟨hs.isWritable hp hentry (hmem d hd), hwalk.inRange d hd⟩
    have hav' : a.value = b.reference := hav.trans href.symm
    have hlinked := hwalk.linked
    rw [hav', hzv] at hlinked
    obtain ⟨t', hbetween, hserver⟩ :=
      Site.between_eq_ok hserves hv hw hs hb hdeltas hlinked.1 hlinked.2
    have hinner := Session.inner_of_ok hbetween cache
    rw [← Site.history_between] at hinner
    exact ⟨a, z, ds, t', hwalk, hz, hav', hzv, hai, hzi, hinner, hserver⟩

variable (hi : b.witness.index ∈ x.issued)
include hi

theorem refresh_of_issued (ha : tails.Answers entry capacity fun _ => True)
    (hw : b.witness.Valid m entry b.reference)
    (hcache : ∀ i a, List.lookup i cache = some a → a = entry i)
    (hy' : b.witness.index ∈ y.issued) :
    ∃ b' u, b.refresh (site.recomputer tails m registry) (site.history tails m) (some y.value)
      (cache, t) = .ok b' u ∧ b.Renews m entry y.value b' := by
  obtain ⟨a, z, ds, t', hwalk, hz, hav, hzv, hai, hzi, hbetween, hserver⟩ :=
    exists_walk hp hentry hfree hs hx hy href hserves hr
  have hrange := (hs.genuine x (List.mem_of_getElem? hx)).inRange _ hi
  have hanswers := fetch_answers hserves ha hentry
  rw [← hav] at hw
  rw [← hai] at hi
  rw [← hzi] at hy'
  obtain ⟨omega, -, hvalid, hrecompute⟩ := Checkpoint.Walk.recompute_yields
    (c := site.recomputer tails m registry) hwalk hanswers hrange hw hi hy' hz
  rw [hav, hzv] at hrecompute
  rw [hzv] at hvalid
  have hgood : InOrder m entry capacity (cache, t') := ⟨hcache, by rw [hserver]; exact hs⟩
  obtain ⟨u, hu, -⟩ := hrecompute _ hgood
  exact ⟨_, u, RevocableBinding.refresh_eq_ok hbetween hu, rfl, rfl, rfl, hvalid⟩

theorem refresh_of_revoked (hy' : ¬ b.witness.index ∈ y.issued) :
    ∃ u, b.refresh (site.recomputer tails m registry) (site.history tails m) (some y.value)
      (cache, t) = .error (.revoked b.witness.index registry) u := by
  obtain ⟨a, z, ds, t', hwalk, -, hav, -, hai, hzi, hbetween, -⟩ :=
    exists_walk hp hentry hfree hs hx hy href hserves hr
  rw [← hai] at hi
  rw [← hzi] at hy'
  have hrecompute :=
    hwalk.recompute_revoked (c := site.recomputer tails m registry) hi hy' (cache, t')
  rw [hav] at hrecompute
  exact ⟨_, RevocableBinding.refresh_eq_error hbetween hrecompute⟩

end

/-- A binding that was valid at any checkpoint, brought to the head over the network while calls are
performed on the registry before each request. If the deltas are refused, which they are not as long
as all are retained, this is reported; otherwise the binding is renewed if its index was issued when
the head was asked for, and reported as revoked if it was not. -/
theorem refresh_of_remote (hrun : IsRun tails m capacity h)
    (ha : tails.Answers entry capacity fun _ => True) (hp : m.value.Prime)
    (hentry : ∀ i, i ∈ IndexSet.upTo capacity → m.IsElement (entry i))
    (hfree : m.CollisionFree entry capacity) (hserves : site.Serves m capacity)
    (hx : h.checkpoints[k]? = some x) (href : b.reference = x.value)
    (hi : b.witness.index ∈ x.issued) (hw : b.witness.Valid m entry b.reference)
    (hcache : ∀ i a, List.lookup i cache = some a → a = entry i)
    {agenda : List (List Registry.Call)} (ht : t.server = ⟨h, agenda⟩) :
    let refreshed := b.refresh (site.recomputer tails m registry) (site.history tails m) none
      (cache, t)
    let first := (t.server.proceed tails).chronicle.registry
    let second := ((t.server.proceed tails).proceed tails).chronicle.registry
    let refused := site.Refuses second b.reference first.accumulator
    (refused → ∃ u, refreshed = .error (.unknownState (.remote "deltas")) u) ∧
    (h.registry.ledger.limit = none → ¬ refused) ∧
    (¬ refused → b.witness.index ∈ first.issued →
      ∃ b' u, refreshed = .ok b' u ∧ b.Renews m entry first.accumulator b') ∧
    (¬ refused → ¬ b.witness.index ∈ first.issued →
      ∃ u, refreshed = .error (.revoked b.witness.index registry) u) := by
  have hc := ha.consistent
  have hs : Sound m entry capacity t.server.chronicle := by
    rw [ht]
    exact sound_of_isRun hrun hc
  have hx : t.server.chronicle.checkpoints[k]? = some x := by
    rw [ht]
    exact hx
  have hs₁ := Issuer.proceed_sound hc hs
  have hx₁ := Issuer.getElem?_proceed tails hx
  have hy₁ := hs₁.current
  have hlimit₁ := Issuer.limit_proceed hc hs
  have hv₁ := hs₁.isElement hp hentry (List.mem_of_getElem? hy₁)
  obtain ⟨t₁, hhead, hserver⟩ := Site.head_eq_ok hserves hs₁ hv₁
  have hinner := Session.inner_of_ok hhead cache
  rw [← Site.history_head] at hinner
  have hrefresh :=
    RevocableBinding.refresh_none (b := b) (c := site.recomputer tails m registry) hinner
  dsimp only
  rw [hrefresh, ← Registry.checkpoint_value, ← Registry.checkpoint_issued]
  -- The head is still a checkpoint when the deltas are asked for.
  rw [← hserver] at hs₁ hx₁ hy₁ hlimit₁ ⊢
  have hs₂ := Issuer.proceed_sound hc hs₁
  have hx₂ := Issuer.getElem?_proceed tails hx₁
  have hy₂ := Issuer.getElem?_proceed tails hy₁
  refine ⟨fun hr => ?_, fun hnone hr => ?_, fun hr hissued => ?_, fun hr hgone => ?_⟩
  · exact refresh_of_refusal hp hentry hfree hs₂ hx₂ hy₂ href hserves hr
  · have hlimit₂ := (Issuer.limit_proceed hc hs₁).trans hlimit₁
    rw [ht, hnone] at hlimit₂
    have hkj : k ≤ t₁.server.chronicle.deltas.length := by
      have := (List.getElem?_eq_some_iff.mp hx₁).1
      have := hs₁.length
      omega
    obtain ⟨ds, hds⟩ := hs₂.exists_between hlimit₂ hkj hx₂ hy₂
    obtain ⟨e, he⟩ := (refuses_iff_between hp hentry hfree hs₂ hx₂ hy₂ href).mp hr
    rw [href, hds] at he
    cases he
  · exact refresh_of_issued hp hentry hfree hs₂ hx₂ hy₂ href hserves hr hi ha hw hcache hissued
  · exact refresh_of_revoked hp hentry hfree hs₂ hx₂ hy₂ href hserves hr hi hgone

/-- Modulo 5, the binding holds at 2: index 2 is issued before the head is asked for and revoked
again before the deltas are, so that the binding is renewed at a value that is no longer the head. -/
theorem refresh_of_remote_five :
    let m : Modulus := ⟨5, by decide⟩
    let tails : TailsSource Unit := .ofList [2, 4]
    let entry := TailsSource.entryIn [2, 4]
    let site : Site := .ofServices
      ⟨"https://ledger.example.com/registry-1", 0x4014000000000000, true, .standard⟩
      ⟨"https://tails.example.com/registry-1", 0x4014000000000000, true, .standard⟩
    let b : RevocableBinding := ⟨⟨1, 1⟩, some "registry", 2⟩
    let agenda : List (List Registry.Call) := [[.issue (.ofList [2])], [.revoke (.ofList [2])]]
    ∃ h, IsRun tails m 2 h ∧ m.CollisionFree entry 2 ∧ site.Serves m 2 ∧
      h.checkpoints[1]? = some ⟨2, .ofList [1], ∅⟩ ∧
      ∃ b' u, b.refresh (site.recomputer tails m (some "registry")) (site.history tails m) none
        ([], .start .system ⟨h, agenda⟩) = .ok b' u ∧ b.Renews m entry 3 b' := by
  intro m tails entry site b agenda
  have hs : Registry.start m tails "registry" 2 .onDemand none () = .ok _ () := rfl
  let calls : List Registry.Call := [.issue (.ofList [1])]
  have hrun : IsRun tails m 2 (recordAll tails calls (opening _ ())) :=
    ⟨"registry", .onDemand, none, (), _, (), calls, hs, rfl⟩
  have ha := TailsSource.ofList_answers [2, 4] fun _ : Unit => True
  have hentry : ∀ i, i ∈ IndexSet.upTo 2 → m.IsElement (entry i) := by
    have hall : ∀ i ∈ (IndexSet.upTo 2).toList, m.IsElement (entry i) := by decide +kernel
    exact fun i hi => hall i (IndexSet.mem_def.mp hi)
  have hfree : m.CollisionFree entry 2 := Modulus.collisionFree_of_powerset (by decide +kernel)
  have hserves : site.Serves m 2 := by
    refine ⟨?head, ?deltas, ?entry, Site.ofServices_reads (by decide +kernel)⟩
    case head =>
      exact ⟨⟨"https", "", "ledger.example.com", none, "/registry-1/head", none, none⟩,
        by decide +kernel⟩
    case deltas =>
      let a (v w : Int) : Http.Address := ⟨"https", "", "ledger.example.com", none,
        "/registry-1/deltas", some (RemoteLedger.betweenQuery m v w), none⟩
      have hall : ∀ v ∈ [1, 2, 3, 4], ∀ w ∈ [1, 2, 3, 4],
          Http.Address.target (site.ledger.url "deltas")
            (some (RemoteLedger.betweenQuery m v w)) = .ok (a v w) ∧ (a v w).isAbsolute ∧
            site.route (a v w) = some (.deltas (m.written v) (m.written w)) := by
        decide +kernel
      have hlist : ∀ v, m.IsElement v → v ∈ [1, 2, 3, 4] := by
        rintro v ⟨hpos, hlt⟩
        change v < 5 at hlt
        simp only [List.mem_cons, List.not_mem_nil, or_false]
        omega
      exact fun v w hv hw => ⟨a v w, hall v (hlist v hv) w (hlist w hw)⟩
    case entry =>
      let a (i : Int) : Http.Address := ⟨"https", "", "tails.example.com", none,
        "/registry-1/" ++ toString i, none, none⟩
      have hall : ∀ i ∈ (IndexSet.upTo 2).toList,
          Http.Address.target (site.tails.url (toString i)) none = .ok (a i) ∧
            (a i).isAbsolute ∧ site.route (a i) = some (.entry i) := by
        decide +kernel
      exact fun i hi => ⟨a i, hall i (IndexSet.mem_def.mp hi)⟩
  refine ⟨_, hrun, hfree, hserves, ?hx, ?renewed⟩
  case renewed =>
    obtain ⟨-, hnone, hok, -⟩ := refresh_of_remote (x := ⟨2, .ofList [1], ∅⟩) (b := b) (k := 1) hrun
      ha (by decide) hentry hfree hserves ?hx rfl (by decide) (by decide)
      (show ∀ i a, List.lookup i ([] : Cache) = some a → a = entry i by simp)
      (t := .start .system ⟨_, agenda⟩) rfl
    obtain ⟨b', u, hb', hrenews⟩ := hok (hnone (by decide +kernel)) (by decide +kernel)
    refine ⟨b', u, hb', (congrArg (b.Renews m entry · b') ?_).mp hrenews⟩
    decide +kernel
  all_goals decide +kernel

end Chronicle
end Revocation
