import Revocation.Proofs.Denotation
import Revocation.Proofs.ExitStatus
import Revocation.Proofs.RoundTrip

/-!
What the command that checks a binding ends with and reports. Main statements: `parse_isOk_iff`, by
which the binding is accepted as it should be, `exists_complaint`, and `status_of_check`.
-/
namespace Revocation

/-- The value spells an element: pairs of hexadecimal digits for a number between 0 and the
modulus. -/
def Json.SpellsElement (m : Modulus) (v : Json) : Prop :=
  ∃ s bs, v = .string s ∧ Hex.decode s = .ok bs ∧ 0 < Bytes.toNat bs ∧ Bytes.toNat bs < m.value

theorem Modulus.exists_decodeValue {m : Modulus} {v : Json} :
    (∃ a, m.decodeValue v = .ok a) ↔ v.SpellsElement m := by
  constructor
  · rintro ⟨a, ha⟩
    rw [decodeValue.eq_def] at ha
    split at ha
    · next s =>
      rw [decode] at ha
      split at ha
      · cases ha
      · next bs hbs =>
        dsimp only at ha
        split at ha
        · next hn => exact ⟨s, bs, rfl, hbs, hn⟩
        · cases ha
    · cases ha
  · rintro ⟨s, bs, rfl, hbs, hn⟩
    refine ⟨Bytes.toNat bs, ?_⟩
    rw [decodeValue, decode, hbs]
    exact if_pos hn

theorem Record.member_eq_ok_iff {ms : Json.Members} {name : String} {v : Json} :
    member (.object ms) name = .ok v ↔ Json.Members.get? name ms = some v := by
  rw [member]
  cases Json.Members.get? name ms <;> simp

namespace Binding

open Json

variable {m : Modulus} {ms : Members} {revocable : Bool} {name : String}

/-- The member is there, and is not null. -/
def Holds (ms : Members) (name : String) : Prop := ∃ v, ms.get? name = some v ∧ v.isNull = false

/-- The members of a revocable binding decode: the index of the witness is a whole number, and its
value and that of the registry are elements. -/
def Decodes (m : Modulus) (ms : Members) : Prop :=
  ∃ w i n omega state, ms.get? "witness" = some w ∧ Record.member w "rev_idx" = .ok i ∧
    Denotes i n ∧ Record.member w "omega" = .ok omega ∧ omega.SpellsElement m ∧
    ms.get? "rev_reg_state" = some state ∧ state.SpellsElement m

/-- All members of the binding are there and decode, or none is, as it is declared. -/
def WellFormed (m : Modulus) (ms : Members) (revocable : Bool) : Prop :=
  if revocable then (∀ name ∈ fields, Holds ms name) ∧ Decodes m ms
  else ∀ name ∈ fields, ¬ Holds ms name

theorem holds_iff : Holds ms name ↔ (ms.getOrNull name).isNull = false := by
  rw [Holds, Members.getOrNull]
  cases ms.get? name with
  | none => simp [isNull]
  | some v => simp

theorem absent_eq_nil_iff : absent ms = [] ↔ ∀ name ∈ fields, Holds ms name := by
  rw [absent, List.filter_eq_nil_iff]
  refine forall₂_congr fun name _ => ?_
  rw [holds_iff, Bool.not_eq_true]

theorem mem_present : name ∈ present ms ↔ name ∈ fields ∧ Holds ms name := by
  rw [present, List.mem_filter, holds_iff, Bool.not_eq_true']

theorem present_eq_nil_iff : present ms = [] ↔ ∀ name ∈ fields, ¬ Holds ms name := by
  rw [List.eq_nil_iff_forall_not_mem]
  refine forall_congr' fun name => ?_
  rw [mem_present, not_and]

/-- All members are there, and nothing but the index is wrong with them, which is no whole number;
or the index is infinite. Such a binding is taken for valid, or cannot be judged. -/
def IsMisread (m : Modulus) (ms : Members) : Prop :=
  (∀ name ∈ fields, Holds ms name) ∧
    ∃ w i, ms.get? "witness" = some w ∧ Record.member w "rev_idx" = .ok i ∧
      (i.IsInfinite ∨ i.IsUneven ∧
        ∃ omega state, Record.member w "omega" = .ok omega ∧ omega.SpellsElement m ∧
          ms.get? "rev_reg_state" = some state ∧ state.SpellsElement m)

theorem partsOf_isOk_iff (hindex : ¬ IsMisread m ms) (hholds : ∀ name ∈ fields, Holds ms name) :
    (∃ b, partsOf m ms = .ok b) ↔ Decodes m ms := by
  constructor
  · rintro ⟨b, h⟩
    obtain ⟨w, hw, h⟩ := bind_eq_ok.mp h
    obtain ⟨x, hx, h⟩ := bind_eq_ok.mp h
    obtain ⟨_, -, h⟩ := bind_eq_ok.mp h
    obtain ⟨state, hstate, h⟩ := bind_eq_ok.mp h
    obtain ⟨reference, hreference, -⟩ := bind_eq_ok.mp h
    obtain ⟨i, hi, hx⟩ := bind_eq_ok.mp hx
    obtain ⟨n, hn, hx⟩ := bind_eq_ok.mp hx
    obtain ⟨omega, homega, hx⟩ := bind_eq_ok.mp hx
    obtain ⟨a, ha, -⟩ := bind_eq_ok.mp hx
    have hw := Record.member_eq_ok_iff.mp hw
    have hstate := Record.member_eq_ok_iff.mp hstate
    have helement := Modulus.exists_decodeValue.mp ⟨a, ha⟩
    have hreference := Modulus.exists_decodeValue.mp ⟨reference, hreference⟩
    have heven : ¬ i.IsUneven := fun huneven => hindex ⟨hholds, w, i, hw, hi,
      .inr ⟨huneven, omega, state, homega, helement, hstate, hreference⟩⟩
    exact ⟨w, i, n, omega, state, hw, hi, denotes_of_index heven hn, homega, helement, hstate,
      hreference⟩
  · rintro ⟨w, i, n, omega, state, hw, hi, hn, homega, helement, hstate, hreference⟩
    obtain ⟨a, ha⟩ := Modulus.exists_decodeValue.mpr helement
    obtain ⟨reference, hreference⟩ := Modulus.exists_decodeValue.mpr hreference
    obtain ⟨id, hid, -⟩ := hholds "rev_reg_id" (by decide)
    have hwitness : Witness.ofJson m w = .ok ⟨n, a⟩ :=
      bind_eq_ok.mpr ⟨i, hi, bind_eq_ok.mpr ⟨n, index_of_denotes hn, bind_eq_ok.mpr ⟨omega, homega,
        bind_eq_ok.mpr ⟨a, ha, rfl⟩⟩⟩⟩
    exact ⟨⟨⟨n, a⟩, some (display id), reference⟩,
      bind_eq_ok.mpr ⟨w, Record.member_eq_ok_iff.mpr hw, bind_eq_ok.mpr ⟨_, hwitness,
        bind_eq_ok.mpr ⟨id, Record.member_eq_ok_iff.mpr hid, bind_eq_ok.mpr ⟨state,
          Record.member_eq_ok_iff.mpr hstate, bind_eq_ok.mpr ⟨reference, hreference, rfl⟩⟩⟩⟩⟩⟩

/-- A binding is accepted if and only if it is as it should be. -/
theorem parse_isOk_iff (hindex : revocable → ¬ IsMisread m ms) :
    (∃ b, parse m ms revocable = .ok b) ↔ WellFormed m ms revocable := by
  cases revocable with
  | false =>
    rw [WellFormed, if_neg Bool.false_ne_true, ← present_eq_nil_iff]
    constructor
    · rintro ⟨b, h⟩
      obtain ⟨_, hvalidate, -⟩ := bind_eq_ok.mp h
      rw [validate, if_neg Bool.false_ne_true] at hvalidate
      split at hvalidate
      · assumption
      · cases hvalidate
    · intro hpresent
      refine ⟨.nonRevocable, bind_eq_ok.mpr ⟨(), ?_, rfl⟩⟩
      rw [validate, if_neg Bool.false_ne_true, if_pos hpresent]
  | true =>
    rw [WellFormed, if_pos rfl]
    constructor
    · rintro ⟨x, h⟩
      obtain ⟨b, rfl⟩ := exists_of_parse h
      obtain ⟨habsent, hparts⟩ := parse_eq_ok h
      have hholds := absent_eq_nil_iff.mp habsent
      exact ⟨hholds, (partsOf_isOk_iff (hindex rfl) hholds).mp ⟨b, hparts⟩⟩
    · rintro ⟨hholds, hdecodes⟩
      obtain ⟨b, hparts⟩ := (partsOf_isOk_iff (hindex rfl) hholds).mpr hdecodes
      refine ⟨.revocable b, bind_eq_ok.mpr ⟨(), ?_, ?_⟩⟩
      · rw [validate, if_pos rfl, if_pos (absent_eq_nil_iff.mpr hholds)]
      · exact bind_eq_ok.mpr ⟨b, reported_eq_ok.mpr hparts, rfl⟩

end Binding

namespace Console

variable {line title text : String} {rows : List (String × String)} {f : MarkupFault}

theorem shows_iff : Shows line ↔ ∃ parts, shown line = .ok parts := by
  rw [Shows, printed]
  cases shown line <;> simp [Except.map]

/-- Text without brackets can be shown by itself. -/
theorem shows_of_not_mem (h : ¬ '[' ∈ line.toList) : Shows line := by
  have hspans : spans 0 [] ((pieces 0 [] line.toList).map Piece.shown) = .ok [] := by
    rw [pieces_of_not_mem h, flushed]
    split <;> rfl
  refine shows_of_spans hspans fun text => ?_
  rw [lookUp, List.reverse_nil, List.mergeSort_nil]
  rfl

/-- A panel that cannot be shown has a value in it that cannot. -/
theorem exists_shown_of_panel (h : panel title rows = .error f) :
    ∃ r ∈ rows, shown r.2 = .error f := by
  rw [panel] at h
  rcases bind_eq_error.mp h with h | ⟨lines, -, h⟩
  · obtain ⟨r, hr, h⟩ := mapM_eq_error h
    rcases bind_eq_error.mp h with h | ⟨parts, -, h⟩
    · exact ⟨r, hr, h⟩
    · cases h
  · cases h

theorem exists_shown_of_mem_rows (h : panel title rows = .ok text) :
    ∀ r ∈ rows, ∃ parts, shown r.2 = .ok parts := by
  intro r hr
  rw [panel] at h
  obtain ⟨lines, hlines, -⟩ := bind_eq_ok.mp h
  obtain ⟨l, -, hl⟩ := (mem_of_mapM hlines).1 r hr
  obtain ⟨parts, hparts, -⟩ := bind_eq_ok.mp hl
  exact ⟨parts, hparts⟩

/-- Plain text in a style can be shown. -/
theorem shows_styled {c : String} (hc : IsName c) (text : String) (htext : IsPlain text.toList)
    (hline : line.toList = lead c text.toList []) : Shows line := by
  rw [← String.ofList_toList (s := line), hline]
  exact shows_of_isName hc htext List.not_mem_nil

/-- A tag in the text of a style closes it, and then that of the style closes nothing. -/
theorem exists_nothingToClose {c : String} {before rest : List Char} (hc : IsName c)
    (hbefore : IsPlain before) (hrest : IsPlain rest)
    (hline : line.toList = lead c before (rest ++ closing)) :
    ∃ p, shown line = .error (.nothingToClose p) := by
  obtain ⟨n, hspans⟩ := exists_spans_lead hc hbefore
  have herror := hspans (rest ++ closing)
  rw [pieces_append hrest, ← List.append_nil closing, pieces_closing, spans_closing,
    List.append_nil, ← hline] at herror
  have hprinted := printed_of_spans_error herror
  rw [printed] at hprinted
  cases hshown : shown line with
  | ok parts =>
    rw [hshown] at hprinted
    cases hprinted
  | error f =>
    rw [hshown] at hprinted
    cases hprinted
    exact ⟨_, rfl⟩

end Console

namespace CommandLine.CheckBinding

open Http

variable {σ : Type} {server : Server σ} {input : Bytes} {o : CheckOptions} {w w' u : World σ}
  {ms : Json.Members} {revocable : Bool} {complaint : Option String} {text : String} {m : Mishap}
  {e : Ending} {args : List String} {f : Console.MarkupFault} {r : String × String}

/-- What complains of a binding is marked up in a cell of its own. -/
def errorCell (text : String) : String := "[red]" ++ text ++ "[/]"

/-- Of the values in the report only a complaint may be impossible to show. -/
theorem shows_of_mem_rows (hr : r ∈ rows ms revocable complaint) :
    Console.Shows r.2 ∨ ∃ text, complaint = some text ∧ r.2 = errorCell text := by
  have hred : Console.IsName ("bold " ++ "red") := Console.isName_bold (by decide)
  have hgreen : Console.IsName ("bold " ++ "green") := Console.isName_bold (by decide)
  have hpresent : Console.IsName "green" := Console.isName_lead (by decide)
  simp only [rows, List.mem_append, List.mem_cons, List.not_mem_nil, or_false, List.mem_map] at hr
  rcases hr with ((rfl | rfl) | ⟨name, -, rfl⟩) | ⟨text, htext, rfl⟩
  · left
    dsimp only
    split
    · exact Console.shows_styled hgreen "VALID" (by decide) (by decide +kernel)
    · exact Console.shows_styled hred "INVALID" (by decide) (by decide +kernel)
  · left
    dsimp only
    split <;> exact Console.shows_of_not_mem (by decide)
  · left
    dsimp only
    split
    · exact Console.shows_styled hpresent "present" (by decide) (by decide +kernel)
    · exact Console.shows_styled Console.isName_dim "absent" (by decide) (by decide +kernel)
  · exact .inr ⟨text, by simpa using htext, rfl⟩

theorem textReport_eq_error (h : textReport ms revocable complaint = .error m) :
    ∃ text f, complaint = some text ∧ Console.shown (errorCell text) = .error f ∧ m = .markup f := by
  rw [textReport] at h
  split at h <;> cases h
  next f hpanel =>
  obtain ⟨r, hr, hshown⟩ := Console.exists_shown_of_panel hpanel
  rcases shows_of_mem_rows hr with hshows | ⟨text, htext, hcell⟩
  · obtain ⟨parts, hparts⟩ := Console.shows_iff.mp hshows
    rw [hshown] at hparts
    cases hparts
  · exact ⟨text, f, htext, hcell ▸ hshown, rfl⟩

/-- What is decoded is there. -/
theorem holds_of_malformed {ms : Json.Members} {c : Malformed}
    (h : Binding.parse .standard ms true = .error (.malformed c)) :
    ∀ name ∈ Binding.fields, Binding.Holds ms name := by
  rcases bind_eq_error.mp h with h | ⟨_, hvalidate, -⟩
  · rw [Binding.validate, if_pos rfl] at h
    split at h <;> cases h
  · rw [Binding.validate, if_pos rfl] at hvalidate
    split at hvalidate
    · next habsent => exact Binding.absent_eq_nil_iff.mp habsent
    · cases hvalidate

/-- Nothing of a binding that is not to be there is decoded. -/
theorem parse_false_ne_malformed (ms : Json.Members) (c : Malformed) :
    Binding.parse .standard ms false ≠ .error (.malformed c) := by
  intro h
  rcases bind_eq_error.mp h with h | ⟨_, -, h⟩
  · rw [Binding.validate, if_neg Bool.false_ne_true] at h
    split at h <;> cases h
  · cases h

/-- A binding that is not as it should be is complained of. -/
theorem exists_complaint (hindex : revocable → ¬ Binding.IsMisread .standard ms) :
    ∃ complaint, complaint? ms revocable = .ok complaint ∧
      (complaint.isNone ↔ Binding.WellFormed .standard ms revocable) := by
  rw [← Binding.parse_isOk_iff hindex, complaint?.eq_def]
  cases hparse : Binding.parse .standard ms revocable with
  | ok b => exact ⟨none, rfl, fun _ => ⟨b, rfl⟩, fun _ => rfl⟩
  | error f =>
    have hcomplaint (text : String) : (some text).isNone ↔
        ∃ b, (Except.error f : Except Failure Binding) = .ok b :=
      ⟨nofun, fun ⟨b, hb⟩ => nomatch hb⟩
    rcases Binding.parse_eq_error hparse with ⟨-, cause, rfl⟩ | ⟨-, cause, rfl⟩ | ⟨c, hc, rfl⟩
    · exact ⟨_, rfl, hcomplaint _⟩
    · exact ⟨_, rfl, hcomplaint _⟩
    · obtain ⟨hw, hx, hinfinite⟩ := hc
      cases revocable with
      | true =>
        exact (hindex rfl ⟨holds_of_malformed hparse, _, _, hw, hx, .inl hinfinite⟩).elim
      | false => exact (parse_false_ne_malformed ms _ hparse).elim

theorem run_of_load_error (hload : load server input o.source o.timeout w = .error m u) :
    run server input o w = (report 2 ("[red]Error:[/] " ++ mishapText m), u) := by
  rw [run, work, Session.bind_of_error hload]

theorem run_of_failure (hload : load server input o.source o.timeout w = .ok ms u) {f : Failure}
    (hcomplaint : complaint? ms o.revocable = .error f) :
    run server input o w = (report 2 ("[red]Error:[/] " ++ f.message), u) := by
  rw [run, work, Session.bind_of_ok hload, hcomplaint]
  rfl

/-- What the command ends with once it has the credential and knows what to say of it. -/
theorem run_of_complaint (hload : load server input o.source o.timeout w = .ok ms u)
    (hcomplaint : complaint? ms o.revocable = .ok complaint) :
    run server input o w =
      (if o.json then
        ⟨if complaint.isNone then 0 else 1, jsonReport ms o.revocable complaint⟩
      else match textReport ms o.revocable complaint with
        | .ok text => ⟨if complaint.isNone then 0 else 1, text⟩
        | .error m => report 2 ("[red]Error:[/] " ++ mishapText m), u) := by
  have hknown : (Work.ofExcept (.ok complaint) : Work σ _) u = .ok complaint u := rfl
  rw [run, work, Session.bind_of_ok hload, hcomplaint, Session.bind_of_ok hknown]
  cases o.json with
  | true => rfl
  | false => cases textReport ms o.revocable complaint <;> rfl

/-- What the command says can be shown, and the binding is not misread. A complaint of which the
report cannot be shown may remain, if it cannot be said either why. -/
structure Speaks (server : Server σ) (input : Bytes) (o : CheckOptions) (w : World σ) : Prop where
  mishap : ∀ m u, load server input o.source o.timeout w = .error m u →
    Console.Shows ("[red]Error:[/] " ++ mishapText m)
  index : o.revocable → ∀ ms, Supplies server input o.source o.timeout w (.object ms) →
    ¬ Binding.IsMisread .standard ms
  complaint : ¬ o.json → ∀ ms text f, Supplies server input o.source o.timeout w (.object ms) →
    complaint? ms o.revocable = .ok (some text) → Console.shown (errorCell text) = .error f →
    ¬ Console.Shows ("[red]Error:[/] " ++ f.message)

/-- The output is a document that says whether the command ends with 0, and lists the members of the
binding that are there. -/
def Reports (ms : Json.Members) (e : Ending) : Prop :=
  ∃ (members : Json.Members) (names : List String), Json.parse e.output = .ok (.object members) ∧
    Json.Members.get? "valid" members = some (.bool (e.status = 0)) ∧
    Json.Members.get? "present" members = some (.array (names.map .string)) ∧
    names.Sublist Binding.fields ∧
    ∀ name, name ∈ names ↔ name ∈ Binding.fields ∧ Binding.Holds ms name

theorem reports_jsonReport (ms : Json.Members) (revocable : Bool) (complaint : Option String) :
    Reports ms ⟨if complaint.isNone then 0 else 1, jsonReport ms revocable complaint⟩ := by
  have hreadable : Json.Readable Json.levelLimit (.object [
      ("valid", .bool complaint.isNone), ("revocable", .bool revocable),
      ("present", .array ((Binding.present ms).map .string)), ("error", nameOrNull complaint)]) := by
    refine show Json.Readable (976 + 4) _ from ⟨by simp, ?_⟩
    simp only [List.forall_mem_cons]
    refine ⟨trivial, trivial, fun v hv => ?_, ?_, List.forall_mem_nil _⟩
    · obtain ⟨name, -, rfl⟩ := List.mem_map.mp hv
      trivial
    · cases complaint <;> trivial
  refine ⟨_, Binding.present ms, Json.parse_render_line hreadable false, ?_, rfl,
    List.filter_sublist, fun name => Binding.mem_present⟩
  cases complaint <;> rfl

/-- A credential that has been loaded is judged with 0 or 1. -/
theorem status_of_load (hspeaks : Speaks server input o w)
    (hload : load server input o.source o.timeout w = .ok ms u)
    (hrun : run server input o w = (e, w')) :
    (Binding.WellFormed .standard ms o.revocable ∧ e.status = 0 ∨
      ¬ Binding.WellFormed .standard ms o.revocable ∧ e.status = 1) ∧ (o.json → Reports ms e) := by
  have hsupplies := exists_load_iff.mp ⟨u, hload⟩
  obtain ⟨complaint, hcomplaint, hvalid⟩ := exists_complaint fun hr => hspeaks.index hr ms hsupplies
  rw [run_of_complaint hload hcomplaint] at hrun
  have hstatus (output : String) :
      Binding.WellFormed .standard ms o.revocable ∧
        (Ending.mk (if complaint.isNone then 0 else 1) output).status = 0 ∨
      ¬ Binding.WellFormed .standard ms o.revocable ∧
        (Ending.mk (if complaint.isNone then 0 else 1) output).status = 1 := by
    by_cases hnone : complaint.isNone = true
    · exact .inl ⟨hvalid.mp hnone, if_pos hnone⟩
    · exact .inr ⟨fun hwell => hnone (hvalid.mpr hwell), if_neg hnone⟩
  cases hjson : o.json with
  | true =>
    rw [hjson] at hrun
    cases hrun
    exact ⟨hstatus _, fun _ => reports_jsonReport ms o.revocable complaint⟩
  | false =>
    rw [hjson] at hrun
    refine ⟨?_, fun h => nomatch h⟩
    cases hreport : textReport ms o.revocable complaint with
    | ok text =>
      rw [hreport] at hrun
      cases hrun
      exact hstatus text
    | error m =>
      rw [hreport] at hrun
      cases hrun
      obtain ⟨text, f, rfl, hcell, rfl⟩ := textReport_eq_error hreport
      have hshows : ¬ Console.Shows ("[red]Error:[/] " ++ f.message) := by
        refine hspeaks.complaint ?_ ms text f hsupplies hcomplaint hcell
        rw [hjson]
        exact Bool.false_ne_true
      refine .inr ⟨fun hwell => ?_, congrArg Ending.status (report_of_not_shows hshows 2)⟩
      cases hvalid.mpr hwell

theorem errorCell_eq (text : String) :
    (errorCell text).toList = Console.lead "red" text.toList [] := by
  rw [errorCell, String.toList_append, String.toList_append]
  simp [Console.lead, Console.closing]

/-- Messages on what cannot be loaded that are without brackets, and complaints without brackets or
backslashes, can be shown. -/
theorem speaks_of_plain
    (hmishap : ∀ m u, load server input o.source o.timeout w = .error m u →
      ¬ '[' ∈ (mishapText m).toList)
    (hindex : o.revocable → ∀ ms, Supplies server input o.source o.timeout w (.object ms) →
      ¬ Binding.IsMisread .standard ms)
    (hcomplaint : ∀ ms text, Supplies server input o.source o.timeout w (.object ms) →
      complaint? ms o.revocable = .ok (some text) → Console.IsPlain text.toList) :
    Speaks server input o w := by
  refine ⟨fun m u hload => ?_, hindex, fun _ ms text f hsupplies hc hcell => ?_⟩
  · rw [Refresh.error_line]
    refine Console.shows_lead (by decide) (by decide) fun hmem => ?_
    exact hmishap m u hload (List.mem_of_ne_of_mem (by decide) hmem)
  · have hshows : Console.Shows (errorCell text) :=
      Console.shows_styled (Console.isName_lead (by decide)) text (hcomplaint ms text hsupplies hc)
        (errorCell_eq text)
    obtain ⟨parts, hparts⟩ := Console.shows_iff.mp hshows
    rw [hcell] at hparts
    cases hparts

/-- As long as what it says can be shown and the binding is not misread, the command ends with 2
where the source stands for no credential, with 0 where the credential's binding is as it should be,
and with 1 otherwise; a report in JSON says the same, and lists what of the binding is there. -/
theorem status_of_check (hargs : Command.ofArguments w.files args = .ok (.checkBinding o))
    (hspeaks : Speaks server input o w) (h : CommandLine.run server input args w = (e, w')) :
    (e.status = 2 ↔ ¬ ∃ ms, Supplies server input o.source o.timeout w (.object ms)) ∧
      ∀ ms, Supplies server input o.source o.timeout w (.object ms) →
        (e.status = 0 ↔ Binding.WellFormed .standard ms o.revocable) ∧
        (e.status = 1 ↔ ¬ Binding.WellFormed .standard ms o.revocable) ∧
        (o.json → Reports ms e) := by
  have hrun : run server input o w = (e, w') := by
    rw [CommandLine.run, hargs] at h
    exact h
  cases hload : load server input o.source o.timeout w with
  | error m u =>
    rw [run_of_load_error hload] at hrun
    cases hrun
    have hstatus := report_of_shows (hspeaks.mishap m w' hload) 2
    have hnone (ms : Json.Members) : ¬ Supplies server input o.source o.timeout w (.object ms) := by
      intro hsupplies
      obtain ⟨u, hok⟩ := exists_load_iff.mpr hsupplies
      cases hload.symm.trans hok
    exact ⟨⟨fun _ => not_exists.mpr hnone, fun _ => hstatus⟩, fun ms hms => (hnone ms hms).elim⟩
  | ok ms u =>
    obtain ⟨hstatus, hreports⟩ := status_of_load hspeaks hload hrun
    constructor
    · refine ⟨fun htwo => ?_, fun hnone => (hnone ⟨ms, exists_load_iff.mp ⟨u, hload⟩⟩).elim⟩
      rcases hstatus with ⟨-, hstatus⟩ | ⟨-, hstatus⟩ <;> omega
    · intro ms' hsupplies
      obtain ⟨u', hok⟩ := exists_load_iff.mpr hsupplies
      cases hload.symm.trans hok
      refine ⟨?_, ?_, hreports⟩
      · rcases hstatus with ⟨hwell, hstatus⟩ | ⟨hwell, hstatus⟩ <;> simp [hwell, hstatus]
      · rcases hstatus with ⟨hwell, hstatus⟩ | ⟨hwell, hstatus⟩ <;> simp [hwell, hstatus]

/-- A card whose index is a text, without the registry's value. -/
theorem status_of_check_card :
    let server : Server (List Answer) := fun _ answers =>
      (answers.headD (.response 404 []), answers.tail)
    let args := ["check-binding", "https://issuer.example.com/card"]
    let o : CheckOptions := ⟨"https://issuer.example.com/card", true, false, 0x403e000000000000⟩
    let card : Json.Members := [
      ("witness", .object [("rev_idx", .string "1"), ("omega", .string "0A")]),
      ("rev_reg_id", .string "7")]
    let w : World (List Answer) :=
      ⟨.empty, .start .system [.response 200 (Bytes.ofText (Json.render true (.object card)))]⟩
    Command.ofArguments w.files args = .ok (.checkBinding o) ∧ Speaks server [] o w ∧
      ¬ Binding.WellFormed .standard card o.revocable ∧
      ∃ e w', CommandLine.run server [] args w = (e, w') ∧ e.status = 1 := by
  intro server args o card w
  let at₀ : Address := ⟨"https", "", "issuer.example.com", none, "/card", none, none⟩
  have hargs : Command.ofArguments w.files args = .ok (.checkBinding o) := rfl
  have hcard : Json.parseBody (Bytes.ofText (Json.render true (.object card))) =
      .ok (.object card) := by
    refine Json.parseBody_render (show Json.Readable (976 + 4) _ from ⟨by simp [card], ?_⟩)
    simp only [card, List.forall_mem_cons]
    exact ⟨⟨by simp, by simp [Json.Readable]⟩, trivial, List.forall_mem_nil _⟩
  have hload : load server [] o.source o.timeout w =
      .ok card { w with traffic := w.traffic.exchanged ⟨at₀, o.timeout, none⟩ [] } :=
    load_of_response (a := at₀) (by decide +kernel) (by decide +kernel) (by decide +kernel)
      (by decide) rfl hcard
  have hsupplies (ms : Json.Members)
      (h : Supplies server [] o.source o.timeout w (.object ms)) : ms = card := by
    obtain ⟨u, hok⟩ := exists_load_iff.mpr h
    cases hload.symm.trans hok
    rfl
  have hspeaks : Speaks server [] o w := by
    refine speaks_of_plain (fun m u h => ?_) (fun _ ms h => ?_) fun ms text h hcomplaint => ?_
    · cases hload.symm.trans h
    · rw [hsupplies ms h]
      rintro ⟨hholds, -⟩
      obtain ⟨v, hv, -⟩ := hholds "rev_reg_state" (by decide)
      cases hv
    · have hmessage : complaint? card true =
          .ok (some "Revocable credential is missing rev_reg_state") := by decide +kernel
      rw [hsupplies ms h] at hcomplaint
      cases hmessage.symm.trans hcomplaint
      decide
  have hmissing : ¬ Binding.WellFormed .standard card o.revocable := by
    rintro ⟨hholds, -⟩
    obtain ⟨v, hv, -⟩ := hholds "rev_reg_state" (by decide)
    cases hv
  cases hrun : CommandLine.run server [] args w with
  | mk e w' =>
    obtain ⟨-, hjudged⟩ := status_of_check hargs hspeaks hrun
    exact ⟨hargs, hspeaks, hmissing, e, w', rfl,
      (hjudged card (exists_load_iff.mp ⟨_, hload⟩)).2.1.mpr hmissing⟩

/-- An infinite index ends the command as if there were no credential. -/
theorem run_of_infinite_index :
    let server : Server Unit := fun _ _ => (.response 404 [], ())
    let args := ["check-binding", "-"]
    let o : CheckOptions := ⟨"-", true, false, 0x403e000000000000⟩
    let input := Bytes.ofText ("\x7b\"witness\":\x7b\"rev_idx\":1e400,\"omega\":\"05\"\x7d," ++
      "\"rev_reg_id\":\"r\",\"rev_reg_state\":\"05\"\x7d")
    let w : World Unit := ⟨.empty, .start .system ()⟩
    Command.ofArguments w.files args = .ok (.checkBinding o) ∧
      (∃ ms, Supplies server input o.source o.timeout w (.object ms)) ∧
      (CommandLine.run server input args w).1.status = 2 := by
  intro server args o input w
  have hargs : Command.ofArguments w.files args = .ok (.checkBinding o) := rfl
  obtain ⟨ms, u, hload, hcomplaint⟩ := exists_load_of_run' (a := .error (.malformed .infinite)) (show
    (load server input o.source o.timeout >>= fun ms =>
      pure (complaint? ms o.revocable) : Work Unit _).run' w = _ by decide +kernel)
  refine ⟨hargs, ⟨ms, exists_load_iff.mp ⟨u, hload⟩⟩, ?_⟩
  have hmessage : ¬ '[' ∈ ' ' :: (Failure.malformed .infinite).message.toList := by decide
  have hshows : Console.Shows ("[red]Error:[/] " ++ (Failure.malformed .infinite).message) := by
    rw [Refresh.error_line]
    exact Console.shows_lead (by decide) (by decide) hmessage
  have hrun : (CommandLine.run server input args w).1 = (run server input o w).1 := by
    rw [CommandLine.run, hargs]
  rw [hrun, run_of_failure hload hcomplaint]
  exact report_of_shows hshows 2

/-- What is said of a tag that closes nothing holds the tag. -/
theorem nothingToClose_text (p : Nat) : (mishapText (.markup (.nothingToClose p))).toList =
    "closing tag '".toList ++
      (Console.closing ++ ("' at position " ++ toString p ++ " has nothing to close").toList) := by
  have hmessage : mishapText (.markup (.nothingToClose p)) =
      "closing tag '[/]' at position " ++ toString p ++ " has nothing to close" := rfl
  have hlead : "closing tag '[/]' at position ".toList =
      "closing tag '".toList ++ (Console.closing ++ "' at position ".toList) := by decide +kernel
  rw [hmessage]
  simp only [String.toList_append, hlead, List.append_assoc]

/-- A complaint with a tag that closes nothing ends the command with 1, and nothing is printed. -/
theorem run_of_closing_complaint (hargs : Command.ofArguments w.files args = .ok (.checkBinding o))
    (hjson : o.json = false) (hload : load server input o.source o.timeout w = .ok ms u)
    (hcomplaint : complaint? ms o.revocable = .ok (some text)) (before rest : List Char)
    (hbefore : Console.IsPlain before) (hrest : Console.IsPlain rest)
    (htext : text.toList = before ++ (Console.closing ++ rest)) :
    CommandLine.run server input args w = (⟨1, ""⟩, u) := by
  have hcell : (errorCell text).toList = Console.lead "red" before (rest ++ Console.closing) := by
    rw [errorCell_eq, htext]
    simp [Console.lead]
  obtain ⟨p, hshown⟩ :=
    Console.exists_nothingToClose (Console.isName_lead (by decide)) hbefore hrest hcell
  have hreport : textReport ms o.revocable (some text) = .error (.markup (.nothingToClose p)) := by
    cases hpanel : textReport ms o.revocable (some text) with
    | error m =>
      obtain ⟨text', f, htext', hf, rfl⟩ := textReport_eq_error hpanel
      cases htext'
      cases hshown.symm.trans hf
      rfl
    | ok out =>
      rw [textReport] at hpanel
      split at hpanel <;> cases hpanel
      next hrows =>
      obtain ⟨parts, hparts⟩ := Console.exists_shown_of_mem_rows hrows ("Error", errorCell text)
        (List.mem_append_right _ List.mem_cons_self)
      cases hshown.symm.trans hparts
  have hplain : Console.IsPlain (' ' :: "closing tag '".toList) := by decide
  have hshows : ¬ Console.Shows ("[red]Error:[/] " ++ mishapText (.markup (.nothingToClose p))) := by
    rw [Refresh.error_line, nothingToClose_text]
    exact Console.not_shows_lead (by decide) (by decide) hplain _
  rw [CommandLine.run, hargs]
  refine (run_of_complaint hload hcomplaint).trans ?_
  rw [hjson, hreport]
  exact congrArg (·, u) (report_of_not_shows hshows 2)

end CommandLine.CheckBinding
end Revocation
