import Revocation.Proofs.RefreshCommand
import Revocation.Proofs.Serving

/-!
What the refresh command makes of a credential. The new document has the members of the old one but
for those of the binding, its binding holds where the command was to lead, and the command makes
nothing else of it when it runs once more. Main statements: `alters_merge`, `Carried.parse`,
`exists_ask_of_recompute` and `refresh_of_credential`.
-/
namespace Revocation

namespace Json.Members

variable {ms ns ms' : Members} {name n : String} {v : Json} {names : List String}

theorem get?_insert_self (name : String) (v : Json) (ms : Members) :
    get? name (insert name v ms) = some v := by
  induction ms with
  | nil => exact List.lookup_cons_self
  | cons p ms ih =>
    obtain ⟨k, u⟩ := p
    rw [insert]
    split
    · next h =>
      rw [h]
      exact List.lookup_cons_self
    · next h =>
      have hbeq : (name == k) = false := by simpa using Ne.symm h
      simpa [get?, List.lookup_cons, hbeq] using ih

theorem get?_insert_of_ne (h : n ≠ name) : get? n (insert name v ms) = get? n ms := by
  have hbeq : (n == name) = false := by simpa using h
  induction ms with
  | nil => simp [insert, get?, List.lookup_cons, hbeq]
  | cons p ms ih =>
    obtain ⟨k, u⟩ := p
    rw [insert]
    split
    · next hk =>
      rw [hk]
      simp only [get?, List.lookup_cons, hbeq]
    · simp only [get?, List.lookup_cons] at ih ⊢
      rw [ih]

theorem insert_of_get? (h : get? name ms = some v) : insert name v ms = ms := by
  induction ms with
  | nil => cases h
  | cons p ms ih =>
    obtain ⟨k, u⟩ := p
    rw [insert]
    split
    · next hk =>
      rw [hk, get?, List.lookup_cons_self] at h
      cases h
      rw [hk]
    · next hk =>
      have hbeq : (name == k) = false := by simpa using Ne.symm hk
      rw [get?, List.lookup_cons, hbeq] at h
      rw [ih h]

/-- The same names in the same order, and but for the given names the same values. -/
def Alters (names : List String) (ms ms' : Members) : Prop :=
  List.Forall₂ (fun a b => b.1 = a.1 ∧ (¬ a.1 ∈ names → b.2 = a.2)) ms ms'

theorem Alters.refl (names : List String) (ms : Members) : Alters names ms ms :=
  List.forall₂_same.mpr fun _ _ => ⟨rfl, fun _ => rfl⟩

theorem Alters.trans (h : Alters names ms ms') (h' : Alters names ms' ns) :
    Alters names ms ns := by
  induction h generalizing ns with
  | nil => exact h'
  | cons hab _ ih =>
    cases h' with
    | cons hbc hrest =>
      refine .cons ⟨hbc.1.trans hab.1, fun hn => ?_⟩ (ih hrest)
      rw [hbc.2 (by rwa [hab.1]), hab.2 hn]

theorem alters_insert (hn : name ∈ names) (h : (get? name ms).isSome) :
    Alters names ms (insert name v ms) := by
  induction ms with
  | nil => cases h
  | cons p ms ih =>
    obtain ⟨k, u⟩ := p
    rw [insert]
    split
    · next hk => exact .cons ⟨rfl, fun hnot => (hnot (hk ▸ hn)).elim⟩ (Alters.refl names ms)
    · next hk =>
      have hbeq : (name == k) = false := by simpa using Ne.symm hk
      rw [get?, List.lookup_cons, hbeq] at h
      exact .cons ⟨rfl, fun _ => rfl⟩ (ih h)

theorem isSome_get?_insert (h : (get? n ms).isSome) : (get? n (insert name v ms)).isSome := by
  by_cases hn : n = name
  · rw [hn, get?_insert_self]
    rfl
  · rwa [get?_insert_of_ne hn]

/-- Members that are there already are replaced where they are. -/
theorem alters_merge (h : ∀ p, p ∈ ns → p.1 ∈ names ∧ (get? p.1 ms).isSome) :
    Alters names ms (merge ms ns) := by
  induction ns generalizing ms with
  | nil => exact Alters.refl names ms
  | cons p ns ih =>
    obtain ⟨⟨hn, hsome⟩, hns⟩ := List.forall_mem_cons.mp h
    refine (alters_insert hn hsome).trans (ih fun q hq => ?_)
    exact ⟨(hns q hq).1, isSome_get?_insert (hns q hq).2⟩

theorem get?_merge_of_not_mem (h : ¬ n ∈ ns.map Prod.fst) : get? n (merge ms ns) = get? n ms := by
  induction ns generalizing ms with
  | nil => rfl
  | cons p ns ih =>
    rw [List.map_cons, List.mem_cons, not_or] at h
    exact (ih h.2).trans (get?_insert_of_ne h.1)

theorem get?_merge (hns : (ns.map Prod.fst).Nodup) {p : String × Json} (hp : p ∈ ns) :
    get? p.1 (merge ms ns) = some p.2 := by
  induction ns generalizing ms with
  | nil => cases hp
  | cons q ns ih =>
    rw [List.map_cons, List.nodup_cons] at hns
    rcases List.mem_cons.mp hp with rfl | hp
    · exact (get?_merge_of_not_mem hns.1).trans (get?_insert_self _ _ _)
    · exact ih hns.2 hp

theorem merge_of_get? (h : ∀ p, p ∈ ns → get? p.1 ms = some p.2) : merge ms ns = ms := by
  induction ns with
  | nil => rfl
  | cons p ns ih =>
    obtain ⟨hp, hns⟩ := List.forall_mem_cons.mp h
    change merge (insert p.1 p.2 ms) ns = ms
    rw [insert_of_get? hp, ih hns]

end Json.Members

theorem Record.member_of_get? {ms : Json.Members} {name : String} {v : Json}
    (h : Json.Members.get? name ms = some v) : member (.object ms) name = .ok v := by
  rw [member, h]

namespace Binding

open Json

variable {m : Modulus} {ms : Members} {b : RevocableBinding} {id : String}

/-- The members of a binding as they are written. -/
def record (m : Modulus) (b : RevocableBinding) (id : String) : Members := [
  ("witness", .object [("rev_idx", .int b.witness.index),
    ("omega", .string (m.written b.witness.omega))]),
  ("rev_reg_id", .string id), ("rev_reg_state", .string (m.written b.reference))]

theorem map_fst_record (m : Modulus) (b : RevocableBinding) (id : String) :
    (record m b id).map Prod.fst = fields := rfl

/-- A binding whose elements can be written and that names its registry. -/
structure Writable (m : Modulus) (b : RevocableBinding) (id : String) : Prop where
  omega : m.IsElement b.witness.omega
  reference : m.IsElement b.reference
  registryId : b.registryId = some id

theorem payload_eq_ok (h : Writable m b id) : payload m (.revocable b) = .ok (record m b id) := by
  have hwitness : b.witness.toJson m = .ok (.object [("rev_idx", .int b.witness.index),
      ("omega", .string (m.written b.witness.omega))]) := by
    rw [Witness.toJson, Modulus.encode_eq_ok h.omega]
    rfl
  rw [payload, hwitness, Modulus.encode_eq_ok h.reference, h.registryId]
  rfl

/-- The binding is what an object carries. -/
def Carried (m : Modulus) (b : RevocableBinding) (id : String) (ms : Members) : Prop :=
  ∀ p, p ∈ record m b id → Members.get? p.1 ms = some p.2

theorem Carried.absent (h : Carried m b id ms) : absent ms = [] := by
  have hwitness := h ("witness", _) List.mem_cons_self
  have hid := h ("rev_reg_id", _) (.tail _ List.mem_cons_self)
  have hreference := h ("rev_reg_state", _) (.tail _ (.tail _ List.mem_cons_self))
  simp [Binding.absent, fields, Members.getOrNull, hwitness, hid, hreference, isNull]

theorem witness_ofJson (h : m.IsElement b.witness.omega) :
    Witness.ofJson m (.object [("rev_idx", .int b.witness.index),
      ("omega", .string (m.written b.witness.omega))]) = .ok b.witness := by
  have homega := Modulus.decode_written h
  simp [Witness.ofJson, Record.member, Members.get?, List.lookup_cons, Record.index,
    Modulus.decodeValue, homega, bind, Except.bind, pure, Except.pure]

/-- What is written is read back. -/
theorem Carried.parse (hb : Writable m b id) (h : Carried m b id ms) :
    parse m ms true = .ok (.revocable b) := by
  have habsent := h.absent
  have hparts : partsOf m ms = .ok b := by
    have hwitness := h ("witness", _) List.mem_cons_self
    have hid := h ("rev_reg_id", _) (.tail _ List.mem_cons_self)
    have hreference := h ("rev_reg_state", _) (.tail _ (.tail _ List.mem_cons_self))
    have hdecode := Modulus.decode_written hb.reference
    rw [partsOf, Record.member_of_get? hwitness, Record.member_of_get? hid,
      Record.member_of_get? hreference]
    simp only [bind, Except.bind, pure, Except.pure, witness_ofJson hb.omega, Modulus.decodeValue,
      hdecode, display, ← hb.registryId]
  rw [Binding.parse, validate, if_pos rfl, if_pos habsent]
  simp only [bind, Except.bind, pure, Except.pure, if_true, hparts, Malformed.reported]

theorem isSome_get?_of_absent (h : absent ms = []) {name : String} (hn : name ∈ fields) :
    (Members.get? name ms).isSome := by
  have hnull := List.filter_eq_nil_iff.mp h name hn
  cases hget : Members.get? name ms with
  | some v => rfl
  | none =>
    rw [Members.getOrNull, hget] at hnull
    exact (hnull rfl).elim

theorem parse_eq_ok (h : parse m ms true = .ok (.revocable b)) :
    absent ms = [] ∧ partsOf m ms = .ok b := by
  obtain ⟨_, hvalidate, h⟩ := bind_eq_ok.mp h
  obtain ⟨b', hreported, h⟩ := bind_eq_ok.mp h
  cases h
  constructor
  · rw [validate, if_pos rfl] at hvalidate
    split at hvalidate
    · assumption
    · cases hvalidate
  · cases hparts : partsOf m ms <;> rw [hparts] at hreported <;> cases hreported
    rfl

theorem writable_of_parse (h : parse m ms true = .ok (.revocable b)) : ∃ id, Writable m b id := by
  obtain ⟨-, h⟩ := parse_eq_ok h
  obtain ⟨v, -, h⟩ := bind_eq_ok.mp h
  obtain ⟨w, hw, h⟩ := bind_eq_ok.mp h
  obtain ⟨id, -, h⟩ := bind_eq_ok.mp h
  obtain ⟨state, -, h⟩ := bind_eq_ok.mp h
  obtain ⟨reference, hreference, h⟩ := bind_eq_ok.mp h
  cases h
  obtain ⟨_, -, hw⟩ := bind_eq_ok.mp hw
  obtain ⟨i, -, hw⟩ := bind_eq_ok.mp hw
  obtain ⟨_, -, hw⟩ := bind_eq_ok.mp hw
  obtain ⟨omega, homega, hw⟩ := bind_eq_ok.mp hw
  cases hw
  exact ⟨_, Modulus.isElement_of_decodeValue homega, Modulus.isElement_of_decodeValue hreference,
    rfl⟩

end Binding

namespace RemoteTails

variable {σ : Type} {m : Modulus} {service : Http.Service} {server : Http.Server σ}
  {c : Recomputer (Cache × Http.Traffic σ)} {w w' : Witness} {accumulator : Option Int}
  {ds : List (Delta Int)} {value : Int} {t : Http.Traffic σ} {y : Cache × Http.Traffic σ}

theorem fetch_of_response {body : Bytes} {i v : Int} {cache : Cache} {t' : Http.Traffic σ}
    (hcache : cache.lookup i = none)
    (hget : service.get server (toString i) none t = .ok ⟨200, body⟩ t')
    (hbody : Json.parseBody body = .ok (entryDocument m i v)) (hv : m.IsElement v) :
    fetch m service server i (cache, t) = .ok v ((i, v) :: cache, t') := by
  rw [fetch_of_ask _ _ _ hcache, ask_of_response hget hbody hv]

/-- The last thing that an update asks for is the entry of the own index, which no delta
mentions. -/
theorem exists_ask_of_recompute (hc : c.tails = fetch c.modulus service server)
    (h : c.recompute w accumulator ds ([], t) = .ok (w', value) y) :
    ∃ e u, ask c.modulus service server w.index u = .ok e y.2 ∧
      c.modulus.combine w'.omega e = value := by
  obtain ⟨-, hown, hindex, -, x, hfold, hcompleted⟩ := Recomputer.recompute_eq_ok h
  have hnone : x.1.lookup w.index = none := by
    refine Session.foldlM_keeps_state (P := fun x => x.1.lookup w.index = none)
      (fun d hd omega x omega' z hx hstep => ?_) rfl hfold
    obtain ⟨hissued, hrevoked⟩ := Recomputer.apart_of_checkOwn hown d hd
    refine Recomputer.absorb_keeps (P := fun x => x.1.lookup w.index = none)
      (fun i hi x a z hx hfetch => ?_) hx hstep
    have hne : w.index ≠ i := by
      rintro rfl
      exact hi.elim hissued hrevoked
    rw [hc] at hfetch
    rw [lookup_of_fetch_of_ne hne hfetch, hx]
  obtain ⟨e, z, hfetch, hlast⟩ := Session.bind_eq_ok.mp hcompleted
  cases hlast
  obtain ⟨cache, u⟩ := x
  rw [hc, hindex, fetch_of_ask _ _ _ hnone] at hfetch
  cases ha : ask c.modulus service server w.index u <;> rw [ha] at hfetch <;> cases hfetch
  exact ⟨e, u, ha, rfl⟩

end RemoteTails

namespace Recomputer

variable {σ : Type} {c : Recomputer σ} {w w' : Witness} {value e : Int} {s t u : σ}

theorem recompute_of_steps {accumulator : Option Int} {ds : List (Delta Int)}
    (hchain : Delta.checkChain ds accumulator none = .ok ())
    (hown : checkOwn c.registry w.index ds = .ok ()) (hindex : w'.index = w.index)
    (hfold : ds.foldlM c.absorb w.omega s = .ok w'.omega u)
    (hcompleted : w'.completed c.modulus c.tails u = .ok value t)
    (htarget : target accumulator ds = some value) :
    c.recompute w accumulator ds s = .ok (w', value) t := by
  obtain ⟨i, omega⟩ := w'
  obtain rfl : i = w.index := hindex
  rw [recompute, hchain, hown, Session.bind_of_ok (Session.ofExcept_ok () s),
    Session.bind_of_ok (Session.ofExcept_ok () s), Session.bind_of_ok hfold]
  exact (Session.bind_of_ok hcompleted _).trans (congrFun (if_pos htarget) t)

theorem completed_of_tails (hfetch : c.tails w.index s = .ok e t)
    (hv : c.modulus.combine w.omega e = value) :
    w.completed c.modulus c.tails s = .ok value t := by
  rw [Witness.completed, Session.bind_of_ok hfetch, hv]
  rfl

theorem recompute_nil (hfetch : c.tails w.index s = .ok e t)
    (hv : c.modulus.combine w.omega e = value) :
    c.recompute w (some value) [] s = .ok (w, value) t :=
  recompute_of_steps rfl rfl rfl (Session.pure_apply w.omega s) (completed_of_tails hfetch hv) rfl

end Recomputer

namespace CommandLine.Refresh

open Json Http

variable {σ : Type} {server : Server σ} {input : Bytes} {o : RefreshOptions} {p : RetryPolicy}
  {ms : Members} {b b' : RevocableBinding} {target : Option Int} {w w' : World σ} {text id : String}
  {e : Int} {t t' : Traffic σ} {x : RemoteTails.Cache × Traffic σ}

/-- Where the command is to lead: to the target if one is named, else to the head that the ledger
answers. -/
def Leads (server : Server σ) (o : RefreshOptions) (p : RetryPolicy) (t : Traffic σ) (v : Int) :
    Prop :=
  match o.target.filter (· ≠ "") with
  | some name => Modulus.standard.decode name = .ok v
  | none => ∃ u, RemoteLedger.head .standard (ledgerService o p) server t = .ok v u

theorem targetOf_cases (o : RefreshOptions) :
    (o.target.filter (· ≠ "") = none ∧ targetOf o = .ok none) ∨
      ∃ name, o.target.filter (· ≠ "") = some name ∧
        targetOf o = (Malformed.reported .malformed (Modulus.standard.decode name)).map some := by
  rw [targetOf.eq_def]
  split
  · next h => exact .inl ⟨by rw [h]; rfl, rfl⟩
  · next h => exact .inl ⟨by rw [h]; rfl, rfl⟩
  · next name hne h => exact .inr ⟨name, by simpa [h, Option.filter] using hne, rfl⟩

theorem leads_of_aims (ht : targetOf o = .ok target) {v : Int}
    (ha : RevocableBinding.Aims (history server o p) target ([], t) v x) :
    Modulus.standard.IsElement v ∧ Leads server o p t v := by
  rw [Leads]
  rcases targetOf_cases o with ⟨hname, hnone⟩ | ⟨name, hname, hsome⟩
  · rw [hnone] at ht
    cases ht
    rw [RevocableBinding.Aims, history_head] at ha
    obtain ⟨u, hhead, -⟩ := Session.inner_eq_ok.mp ha
    rw [hname]
    exact ⟨RemoteLedger.isElement_of_head hhead, u, hhead⟩
  · rw [hsome] at ht
    cases hdecode : Modulus.standard.decode name with
    | error c =>
      rw [hdecode] at ht
      cases ht
    | ok a =>
      rw [hdecode] at ht
      cases ht
      obtain ⟨rfl, -⟩ := ha
      rw [hname]
      exact ⟨Modulus.isElement_of_decode hdecode, hdecode⟩

/-- What becomes of a binding: the same credential, at the value to which the command was to lead,
by an entry that the tails server has served. -/
structure Renews (server : Server σ) (o : RefreshOptions) (p : RetryPolicy) (t : Traffic σ)
    (b b' : RevocableBinding) (e : Int) (t' : Traffic σ) : Prop where
  index : b'.witness.index = b.witness.index
  registryId : b'.registryId = b.registryId
  leads : Leads server o p t b'.reference
  served : ∃ u, RemoteTails.ask .standard (tailsService o p) server b.witness.index u = .ok e t'
  verifies : Modulus.standard.combine b'.witness.omega e = b'.reference

theorem isElement_of_combine {m : Modulus} {a e : Int} (ha : m.IsResidue a)
    (h : m.IsElement (m.combine a e)) : m.IsElement a := by
  refine ⟨lt_of_le_of_ne ha.1 fun hzero => ?_, ha.2⟩
  have hcombine : m.combine a e = 0 := by
    rw [← hzero]
    simp [Modulus.combine]
  rw [hcombine] at h
  exact lt_irrefl 0 h.1

theorem renews_of_refresh (hs : Starts o ms b p target)
    (h : b.refresh (recomputer server o p b) (history server o p) target ([], t) = .ok b' x) :
    ∃ e id, Renews server o p t b b' e x.2 ∧ Binding.Writable .standard b' id := by
  obtain ⟨id, hwritable⟩ := Binding.writable_of_parse hs.binding
  obtain ⟨value, ds, u, u', haims, hbetween, hrecompute, hid⟩ :=
    RevocableBinding.exists_steps_of_refresh h
  obtain ⟨hvalue, hleads⟩ := leads_of_aims hs.target haims
  obtain ⟨-, -, hindex, htarget, z, hfold, -⟩ := Recomputer.recompute_eq_ok hrecompute
  -- Nothing is in the cache until the deltas have come.
  have hu : u.1 = [] := by
    cases target with
    | some v => exact haims.2 ▸ rfl
    | none =>
      rw [RevocableBinding.Aims, history_head] at haims
      obtain ⟨_, -, rfl⟩ := Session.inner_eq_ok.mp haims
      rfl
  obtain ⟨cache, s⟩ := u
  cases hu
  rw [history_between] at hbetween
  obtain ⟨s', hanswer, rfl⟩ := Session.inner_eq_ok.mp hbetween
  have hreference : b'.reference = value := by
    rw [Recomputer.target_eq, RemoteLedger.finish_eq_of_between hanswer] at htarget
    exact (Option.some.inj htarget).symm
  obtain ⟨e, v, hask, hverifies⟩ := RemoteTails.exists_ask_of_recompute rfl hrecompute
  have hresidue : Modulus.standard.IsResidue b'.witness.omega :=
    Recomputer.isResidue_foldlM_absorb (c := recomputer server o p b)
      ⟨le_of_lt hwritable.omega.1, hwritable.omega.2⟩ hfold
  have helement : Modulus.standard.IsElement b'.reference := hreference ▸ hvalue
  refine ⟨e, id, ⟨hindex, hid, hreference ▸ hleads, ⟨v, hask⟩, hverifies⟩, ?_, helement, ?_⟩
  · exact isElement_of_combine hresidue (hverifies ▸ helement)
  · rw [hid, hwritable.registryId]

theorem updated_eq_ok (h : Binding.Writable .standard b id) :
    updated ms (.revocable b) = .ok (.object (ms.merge (Binding.record .standard b id))) := by
  rw [updated, Binding.payload_eq_ok h]
  rfl

theorem refreshed_eq_ok (hs : Starts o ms b p target)
    (h : b.refresh (recomputer server o p b) (history server o p) target ([], t) = .ok b' x) :
    refreshed server o ms ([], t) = .ok (.revocable b') x := by
  rw [refreshed_of_starts hs, Session.bind_of_ok h]
  rfl

/-- Servers that lead to where the binding holds already, by its entry: whenever they are in a good
state, there is nothing between that value and itself. -/
structure Stands (server : Server σ) (o : RefreshOptions) (p : RetryPolicy)
    (good : Traffic σ → Prop) (b : RevocableBinding) (e : Int) : Prop where
  leads : ∀ t, good t → match o.target.filter (· ≠ "") with
    | some name => Modulus.standard.decode name = .ok b.reference
    | none => ∃ u, RemoteLedger.head .standard (ledgerService o p) server t = .ok b.reference u ∧
      good u
  between : (RemoteLedger.between .standard (ledgerService o p) server b.reference
    b.reference).Yields good []
  entry : (RemoteTails.ask .standard (tailsService o p) server b.witness.index).Yields good e

theorem Stands.aims {good : Traffic σ → Prop} (h : Stands server o p good b e) (ht : good t) :
    ∃ target u, targetOf o = .ok target ∧ good u ∧
      RevocableBinding.Aims (history server o p) target ([], t) b.reference ([], u) := by
  have hleads := h.leads t ht
  rcases targetOf_cases o with ⟨hname, hnone⟩ | ⟨name, hname, hsome⟩
  · rw [hname] at hleads
    obtain ⟨u, hhead, hu⟩ := hleads
    refine ⟨none, u, hnone, hu, ?_⟩
    rw [RevocableBinding.Aims, history_head]
    exact Session.inner_of_ok hhead []
  · rw [hname] at hleads
    dsimp only at hleads
    rw [hleads] at hsome
    exact ⟨some b.reference, t, hsome, ht, rfl, rfl⟩

theorem refresh_of_stands {good : Traffic σ → Prop} (h : Stands server o p good b e)
    (hv : Modulus.standard.combine b.witness.omega e = b.reference) (ht : good t) :
    ∃ target x, targetOf o = .ok target ∧
      b.refresh (recomputer server o p b) (history server o p) target ([], t) = .ok b x := by
  obtain ⟨target, u, htarget, hu, haims⟩ := h.aims ht
  obtain ⟨u', hbetween, hu'⟩ := h.between u hu
  obtain ⟨u'', hask, -⟩ := h.entry u' hu'
  have hdeltas :
      (history server o p).between b.reference b.reference ([], u) = .ok [] ([], u') := by
    rw [history_between]
    exact Session.inner_of_ok hbetween []
  have hfetch : RemoteTails.fetch .standard (tailsService o p) server b.witness.index ([], u') =
      .ok e ([(b.witness.index, e)], u'') := by
    rw [RemoteTails.fetch_of_ask _ _ _ List.lookup_nil, hask]
  refine ⟨target, ([(b.witness.index, e)], u''), htarget, ?_⟩
  rw [RevocableBinding.refresh_of_aims haims]
  exact RevocableBinding.refresh_eq_ok hdeltas
    (Recomputer.recompute_nil (c := recomputer server o p b) hfetch hv)

/-- A document whose binding holds already comes out as it went in. -/
theorem document_of_stands {good : Traffic σ → Prop} (hb : Binding.Writable .standard b id)
    (hms : Binding.Carried .standard b id ms) (hp : policyOf o = .ok p)
    (hload : load server input o.source o.timeout w = .ok ms w')
    (hstands : Stands server o p good b e) (hgood : good w'.traffic)
    (hv : Modulus.standard.combine b.witness.omega e = b.reference) :
    ∃ u, document server input o w = .ok (Json.render true (.object ms) ++ "\n") u := by
  obtain ⟨target, x, htarget, hrefresh⟩ := refresh_of_stands hstands hv hgood
  have hstarts : Starts o ms b p target := ⟨hms.parse hb, hp, htarget⟩
  have hmerge : ms.merge (Binding.record .standard b id) = ms := Members.merge_of_get? hms
  have hupdated : updated ms (.revocable b) = .ok (.object ms) := by
    rw [updated_eq_ok hb, hmerge]
  refine ⟨{ w' with traffic := x.2 }, document_eq_ok.mpr ⟨ms, w', _, _, hload, ?_, hupdated, rfl⟩⟩
  exact online_eq_ok.mpr ⟨x, refreshed_eq_ok hstarts hrefresh, rfl⟩

/-- When the command ends with 0 and has put out a document: the document has the members of the
credential but for its binding, which holds where the command was to lead; and while the servers
stand there, the command makes nothing else of the document. -/
theorem refresh_of_credential (ho : o.output = none)
    (h : run server input o w = (⟨0, text⟩, w')) :
    ∃ ms u b p target ms' b' e, load server input o.source o.timeout w = .ok ms u ∧
      Starts o ms b p target ∧
      text = Json.render true (.object ms') ++ "\n" ∧
      Members.Alters Binding.fields ms ms' ∧
      Binding.parse .standard ms' true = .ok (.revocable b') ∧
      Renews server o p u.traffic b b' e w'.traffic ∧
      ∀ (τ : Type) (server' : Server τ) (input' : Bytes) (o' : RefreshOptions) (p' : RetryPolicy)
        (good : Traffic τ → Prop) (v v' : World τ), o'.output = none → policyOf o' = .ok p' →
        load server' input' o'.source o'.timeout v = .ok ms' v' → good v'.traffic →
        Stands server' o' p' good b' e →
        ∃ v'', run server' input' o' v = (⟨0, text⟩, v'') := by
  obtain ⟨ms, u, r, v, hload, honline, hupdated, rfl⟩ :=
    document_eq_ok.mp ((run_eq_zero_iff ho).mp h)
  obtain ⟨x, hrefreshed, rfl⟩ := online_eq_ok.mp honline
  rcases starts_or_error server o ms with ⟨b, p, target, hstarts⟩ | ⟨e, -, herror⟩
  · rw [refreshed_of_starts hstarts] at hrefreshed
    obtain ⟨b', x', hrefresh, hlast⟩ := Session.bind_eq_ok.mp hrefreshed
    cases hlast
    obtain ⟨e, id, hrenews, hwritable⟩ := renews_of_refresh hstarts hrefresh
    rw [updated_eq_ok hwritable] at hupdated
    cases hupdated
    obtain ⟨habsent, -⟩ := Binding.parse_eq_ok hstarts.binding
    have hcarried : Binding.Carried .standard b' id
        (ms.merge (Binding.record .standard b' id)) := fun q hq =>
      Members.get?_merge (by simp [Binding.map_fst_record, Binding.fields]) hq
    refine ⟨ms, u, b, p, target, _, b', e, hload, hstarts, rfl, Members.alters_merge fun q hq => ?_,
      hcarried.parse hwritable, hrenews, fun τ server' input' o' p' good v v' ho' hp' hload' hgood
        hstands => ?_⟩
    · have hname : q.1 ∈ Binding.fields := List.mem_map_of_mem hq
      exact ⟨hname, Binding.isSome_get?_of_absent habsent hname⟩
    · obtain ⟨v'', hdocument⟩ :=
        document_of_stands hwritable hcarried hp' hload' hstands hgood hrenews.verifies
      exact ⟨v'', (run_eq_zero_iff ho').mpr hdocument⟩
  · rw [herror] at hrefreshed
    cases hrefreshed

/-- The card holds at 20, by the witness 10 for index 1, which has the entry 2; index 2 has been
issued since, with the entry 3. -/
theorem refresh_of_credential_sixty :
    let server : Server (List Answer) := fun _ answers =>
      (answers.headD (.response 404 []), answers.tail)
    let answer (v : Json) : Answer := .response 200 (Bytes.ofText (Json.render true v))
    let m := Modulus.standard
    let d : Delta Int := ⟨20, 60, .ofList [2], ∅, by simp⟩
    let o : RefreshOptions := ⟨"https://issuer.example.com/card", "https://ledger.example.com/1",
      "https://tails.example.com/1", none, none, true, 0x403e000000000000, 3⟩
    let card : Members := [("name", .string "card"),
      ("witness", .object [("rev_idx", .string "1"), ("omega", .string "0A")]),
      ("rev_reg_id", .int 7), ("rev_reg_state", .string "14")]
    let w : World (List Answer) := ⟨⟨[], []⟩, .start .system ([.object card,
      RemoteLedger.headDocument m 60, RemoteLedger.deltasDocument m [d],
      RemoteTails.entryDocument m 2 3, RemoteTails.entryDocument m 1 2].map answer)⟩
    ∃ text w', run server [] o w = (⟨0, text⟩, w') ∧ ∃ ms' b',
      text = Json.render true (.object ms') ++ "\n" ∧ Members.Alters Binding.fields card ms' ∧
      Binding.parse m ms' true = .ok (.revocable b') ∧ b'.witness.index = 1 ∧
      b'.registryId = some "7" := by
  intro server answer m d o card w
  let b : RevocableBinding := ⟨⟨1, 10⟩, some "7", 20⟩
  let b' : RevocableBinding := ⟨⟨1, 30⟩, some "7", 60⟩
  let p : RetryPolicy := ⟨3, 0.5, 0.25, by decide⟩
  let at₀ : Address := ⟨"https", "", "issuer.example.com", none, "/card", none, none⟩
  let at₁ : Address := ⟨"https", "", "ledger.example.com", none, "/1/head", none, none⟩
  let at₂ : Address := ⟨"https", "", "ledger.example.com", none, "/1/deltas", none, none⟩
  let at₃ : Address := { at₂ with
    query := some (Address.normal Address.keptInQuery (RemoteLedger.betweenQuery m 20 60).toList) }
  let at₄ : Address := ⟨"https", "", "tails.example.com", none, "/1/2", none, none⟩
  let at₅ : Address := ⟨"https", "", "tails.example.com", none, "/1/1", none, none⟩
  let t₁ := w.traffic.exchanged ⟨at₀, o.timeout, none⟩ w.traffic.server.tail
  let t₂ := t₁.exchanged ((ledgerService o p).request at₁) t₁.server.tail
  let t₃ := t₂.exchanged ((ledgerService o p).request at₃) t₂.server.tail
  let t₄ := t₃.exchanged ((tailsService o p).request at₄) t₃.server.tail
  let t₅ := t₄.exchanged ((tailsService o p).request at₅) t₄.server.tail
  have hread (v : Json) (hv : IsDocument m 2 v) :
      Json.parseBody (Bytes.ofText (Json.render true v)) = .ok v :=
    Json.parseBody_render (hv.readable (by decide +kernel))
  have hcard : Json.parseBody (Bytes.ofText (Json.render true (.object card))) =
      .ok (.object card) := by
    refine Json.parseBody_render (show Readable (976 + 4) _ from ⟨by simp [card], ?_⟩)
    simp only [card, List.forall_mem_cons]
    exact ⟨trivial, ⟨by simp, by simp [Readable]⟩,
      show (7 : Int).natAbs < Nat.pow 10 Numeral.limit from by decide +kernel, trivial,
      List.forall_mem_nil _⟩
  have hload : load server [] o.source o.timeout w = .ok card { w with traffic := t₁ } :=
    load_of_response (a := at₀) (by decide +kernel) (by decide +kernel) (by decide +kernel)
      (by decide) rfl hcard
  have hhead : RemoteLedger.head m (ledgerService o p) server t₁ = .ok 60 t₂ :=
    RemoteLedger.head_of_response (get_of_response (a := at₁) (by decide +kernel)
      (by decide +kernel) (by decide) rfl) (hread _ (.head (by decide +kernel))) (by decide +kernel)
  have htarget : Address.target ((ledgerService o p).url "deltas")
      (some (RemoteLedger.betweenQuery m 20 60)) = .ok at₃ :=
    Address.target_withQuery (a := at₂) (by decide +kernel) (by decide +kernel) (by decide +kernel)
      (RemoteLedger.length_betweenQuery_le 20 60)
  have hd : ∀ d' ∈ [d], d'.IsWritable m ∧
      ∀ i, i ∈ d'.issued ∨ i ∈ d'.revoked → i ∈ IndexSet.upTo 2 := by
    refine List.forall_mem_singleton.mpr ⟨⟨by decide +kernel, by decide +kernel⟩, fun i hi => ?_⟩
    rcases hi with hi | hi
    · rw [List.mem_singleton.mp hi]
      decide
    · cases hi
  have hbetween : RemoteLedger.between m (ledgerService o p) server 20 60 t₂ = .ok [d] t₃ :=
    RemoteLedger.between_of_response (by decide +kernel) (by decide +kernel)
      (get_of_response htarget (by decide +kernel) (by decide) rfl)
      (hread _ (.deltas hd)) (fun d' hd' => (hd d' hd').1) ⟨rfl, trivial⟩ rfl
  have hsecond : RemoteTails.fetch m (tailsService o p) server 2 ([], t₃) =
      .ok 3 ([(2, 3)], t₄) :=
    RemoteTails.fetch_of_response rfl (get_of_response (a := at₄) (by decide +kernel)
      (by decide +kernel) (by decide) rfl) (hread _ (.entry (by decide) (by decide +kernel)))
      (by decide +kernel)
  have hfirst : RemoteTails.fetch m (tailsService o p) server 1 ([(2, 3)], t₄) =
      .ok 2 ([(1, 2), (2, 3)], t₅) :=
    RemoteTails.fetch_of_response rfl (get_of_response (a := at₅) (by decide +kernel)
      (by decide +kernel) (by decide) rfl) (hread _ (.entry (by decide) (by decide +kernel)))
      (by decide +kernel)
  have habsorb : [d].foldlM (recomputer server o p b).absorb b.witness.omega ([], t₃) =
      .ok b'.witness.omega ([(2, 3)], t₄) := by
    have hcombined : m.combine 10 3 = 30 := by decide +kernel
    rw [List.foldlM_cons, Recomputer.absorb]
    refine (Session.bind_of_ok ((congrFun (TailsSource.including_cons _ 2 []) _).trans
      (Session.bind_of_ok hsecond _)) _).trans ?_
    change EStateM.Result.ok (m.combine 10 3) _ = _
    rw [hcombined]
  have hrecompute : (recomputer server o p b).recompute b.witness (some b.reference) [d] ([], t₃) =
      .ok (b'.witness, b'.reference) ([(1, 2), (2, 3)], t₅) :=
    Recomputer.recompute_of_steps rfl rfl rfl habsorb
      (Recomputer.completed_of_tails hfirst (by decide +kernel)) rfl
  have haims : RevocableBinding.Aims (history server o p) none ([], t₁) 60 ([], t₂) := by
    rw [RevocableBinding.Aims, history_head]
    exact Session.inner_of_ok hhead []
  have hdeltas : (history server o p).between b.reference 60 ([], t₂) = .ok [d] ([], t₃) := by
    rw [history_between]
    exact Session.inner_of_ok hbetween []
  have hrefresh : b.refresh (recomputer server o p b) (history server o p) none ([], t₁) =
      .ok b' ([(1, 2), (2, 3)], t₅) := by
    rw [RevocableBinding.refresh_of_aims haims]
    exact RevocableBinding.refresh_eq_ok hdeltas hrecompute
  have hstarts : Starts o card b p none := ⟨by decide +kernel, rfl, rfl⟩
  have hwritable : Binding.Writable m b' "7" := ⟨by decide +kernel, by decide +kernel, rfl⟩
  have hrun := (run_eq_zero_iff rfl).mpr (document_eq_ok.mpr ⟨card, _, _, _, hload,
    online_eq_ok.mpr ⟨_, refreshed_eq_ok hstarts hrefresh, rfl⟩, updated_eq_ok hwritable, rfl⟩)
  obtain ⟨ms, u, b₀, p₀, target, ms', b₁, e, hload₀, hstarts₀, htext, halters, hparse, hrenews,
    -⟩ := refresh_of_credential rfl hrun
  rw [hload] at hload₀
  cases hload₀
  obtain rfl : b = b₀ := by
    exact Binding.revocable.inj (Except.ok.inj (hstarts.binding.symm.trans hstarts₀.binding))
  exact ⟨_, _, hrun, ms', b₁, htext, halters, hparse, hrenews.index, hrenews.registryId⟩

end CommandLine.Refresh
end Revocation
