import Revocation.CommandLine.Source
import Revocation.Proofs.Remote

/-!
Where the commands get a credential from. What is loaded is the object that stands on the standard
input, that a server answers with or that is in a file. Main statement: `exists_load_iff`.
-/
namespace Revocation

theorem FileStore.pathExists_of_read {files : FileStore} {p : Path} {bs : Bytes}
    (h : files.read p = .ok bs) : files.pathExists p = .ok true := by
  rw [read] at h
  rw [pathExists]
  split at h <;> cases h
  next hfile =>
  simp only [hfile]

namespace CommandLine

open Http

variable {σ : Type} {server : Server σ} {input : Bytes} {source : String} {timeout : Nat}
  {w u : World σ} {v : Json} {ms : Json.Members}

theorem ofDocument_eq_ok {x : Except Json.Fault Json} :
    (MonadExcept.ofExcept (ofDocument x) : Work σ Json) w = .ok v u ↔ x = .ok v ∧ u = w := by
  cases x with
  | ok v' =>
    constructor
    · intro h
      cases h
      exact ⟨rfl, rfl⟩
    · rintro ⟨h, rfl⟩
      cases h
      rfl
  | error f => exact ⟨nofun, nofun⟩

/-- A document is downloaded if the server answers the one request with it. -/
theorem download_eq_ok : download server source timeout w = .ok v u ↔
    ∃ a status body s, Address.target source none = .ok a ∧ a.isAbsolute ∧
      server ⟨a, timeout, none⟩ w.traffic.server = (.response status body, s) ∧
      isSuccess status ∧ Json.parseBody body = .ok v ∧
      u = { w with traffic := w.traffic.exchanged ⟨a, timeout, none⟩ s } := by
  have hget : (get : Work σ (World σ)) w = .ok w w := rfl
  rw [download]
  constructor
  · intro h
    cases ha : Address.target source none with
    | error f =>
      rw [ha] at h
      cases h
    | ok a =>
      simp only [ha, pure_bind, Session.bind_of_ok hget] at h
      cases hsend : send server ⟨a, timeout, none⟩ w.traffic with
      | error f t =>
        rw [hsend] at h
        cases h
      | ok r t =>
        rw [hsend] at h
        obtain ⟨habsolute, s, hanswer, rfl⟩ := send_eq_ok.mp hsend
        obtain ⟨_, u', hset, h⟩ := Session.bind_eq_ok.mp h
        cases hset
        split at h
        · next hsuccess =>
          obtain ⟨hv, rfl⟩ := ofDocument_eq_ok.mp h
          exact ⟨a, r.status, r.body, s, rfl, habsolute, hanswer, hsuccess, hv, rfl⟩
        · cases h
  · rintro ⟨a, status, body, s, ha, habsolute, hanswer, hsuccess, hv, rfl⟩
    have hsend : send server ⟨a, timeout, none⟩ w.traffic =
        .ok ⟨status, body⟩ (w.traffic.exchanged ⟨a, timeout, none⟩ s) :=
      send_eq_ok.mpr ⟨habsolute, s, hanswer, rfl⟩
    simp only [ha, pure_bind, Session.bind_of_ok hget, hsend, if_pos hsuccess]
    exact ofDocument_eq_ok.mpr ⟨hv, rfl⟩

theorem readSource_eq_ok : readSource source w = .ok v u ↔
    ∃ bs, w.files.read (Path.ofString source) = .ok bs ∧ Json.parseFile bs = .ok v ∧ u = w := by
  constructor
  · intro h
    obtain ⟨_, _, hget, h⟩ := Session.bind_eq_ok.mp h
    cases hget
    cases hexists : w.files.pathExists (Path.ofString source) with
    | error f =>
      simp only [hexists] at h
      cases h
    | ok found =>
      cases found with
      | false =>
        simp only [hexists] at h
        cases h
      | true =>
        cases hread : w.files.read (Path.ofString source) with
        | error f =>
          simp only [hexists, hread] at h
          cases h
        | ok bs =>
          simp only [hexists, hread] at h
          obtain ⟨hv, rfl⟩ := ofDocument_eq_ok.mp h
          exact ⟨bs, rfl, hv, rfl⟩
  · rintro ⟨bs, hbs, hv, rfl⟩
    refine Session.bind_eq_ok.mpr ⟨u, u, rfl, ?_⟩
    simp only [FileStore.pathExists_of_read hbs, hbs]
    exact ofDocument_eq_ok.mpr ⟨hv, rfl⟩

/-- The document that the source stands for: the one on the standard input, the one that a server
answers with, or the one in a file. -/
inductive Supplies (server : Server σ) (input : Bytes) (source : String) (timeout : Nat)
    (w : World σ) : Json → Prop
  | input {v : Json} (hsource : source = "-") (hv : Json.parseFile input = .ok v) :
      Supplies server input source timeout w v
  | answer {v : Json} {a : Address} {status : Nat} {body : Bytes} {s : σ}
      (hurl : source.startsWith "http://" ∨ source.startsWith "https://")
      (ha : Address.target source none = .ok a) (habsolute : a.isAbsolute)
      (hanswer : server ⟨a, timeout, none⟩ w.traffic.server = (.response status body, s))
      (hsuccess : isSuccess status) (hv : Json.parseBody body = .ok v) :
      Supplies server input source timeout w v
  | file {v : Json} {bs : Bytes} (hdash : source ≠ "-")
      (hurl : ¬ (source.startsWith "http://" ∨ source.startsWith "https://"))
      (hbs : w.files.read (Path.ofString source) = .ok bs) (hv : Json.parseFile bs = .ok v) :
      Supplies server input source timeout w v

theorem ne_dash_of_url (h : source.startsWith "http://" ∨ source.startsWith "https://") :
    source ≠ "-" := by
  rintro rfl
  revert h
  decide

/-- Of documents only objects are taken for credentials. -/
theorem exists_object_iff {x : Work σ Json} :
    (∃ u, (x >>= fun document => match document with
      | .object ms => return ms
      | v => throw (.notObject v.shape) : Work σ Json.Members) w = .ok ms u) ↔
    ∃ u, x w = .ok (.object ms) u := by
  constructor
  · rintro ⟨u, h⟩
    obtain ⟨v, u', hdocument, h⟩ := Session.bind_eq_ok.mp h
    cases v with
    | object ms' =>
      cases h
      exact ⟨u, hdocument⟩
    | _ => cases h
  · rintro ⟨u, h⟩
    exact ⟨u, Session.bind_of_ok h _⟩

/-- A credential is loaded if and only if the source stands for an object. -/
theorem exists_load_iff : (∃ u, load server input source timeout w = .ok ms u) ↔
    Supplies server input source timeout w (.object ms) := by
  rw [load]
  constructor
  · intro h
    split at h
    · next hdash =>
      obtain ⟨u, hdocument⟩ := exists_object_iff.mp h
      exact .input hdash (ofDocument_eq_ok.mp hdocument).1
    · next hdash =>
      split at h
      · next hurl =>
        obtain ⟨u, hdocument⟩ := exists_object_iff.mp h
        obtain ⟨a, status, body, s, ha, habsolute, hanswer, hsuccess, hv, -⟩ :=
          download_eq_ok.mp hdocument
        exact .answer (Bool.or_eq_true_iff.mp hurl) ha habsolute hanswer hsuccess hv
      · next hurl =>
        obtain ⟨u, hdocument⟩ := exists_object_iff.mp h
        obtain ⟨bs, hbs, hv, -⟩ := readSource_eq_ok.mp hdocument
        exact .file hdash (fun h => hurl (Bool.or_eq_true_iff.mpr h)) hbs hv
  · intro h
    cases h with
    | input hdash hv =>
      rw [if_pos hdash]
      exact exists_object_iff.mpr ⟨w, ofDocument_eq_ok.mpr ⟨hv, rfl⟩⟩
    | answer hurl ha habsolute hanswer hsuccess hv =>
      rw [if_neg (ne_dash_of_url hurl), if_pos (Bool.or_eq_true_iff.mpr hurl)]
      exact exists_object_iff.mpr
        ⟨_, download_eq_ok.mpr ⟨_, _, _, _, ha, habsolute, hanswer, hsuccess, hv, rfl⟩⟩
    | file hdash hurl hbs hv =>
      rw [if_neg hdash, if_neg fun h => hurl (Bool.or_eq_true_iff.mp h)]
      exact exists_object_iff.mpr ⟨w, readSource_eq_ok.mpr ⟨_, hbs, hv, rfl⟩⟩

theorem load_of_response {status : Nat} {body : Bytes} {a : Address} {s : σ}
    (hsource : source.startsWith "https://") (ha : Address.target source none = .ok a)
    (hab : a.isAbsolute) (hs : isSuccess status)
    (hr : server ⟨a, timeout, none⟩ w.traffic.server = (.response status body, s))
    (hbody : Json.parseBody body = .ok (.object ms)) :
    load server input source timeout w =
      .ok ms { w with traffic := w.traffic.exchanged ⟨a, timeout, none⟩ s } := by
  have hdownload := download_eq_ok.mpr ⟨a, status, body, s, ha, hab, hr, hs, hbody, rfl⟩
  rw [load, if_neg (ne_dash_of_url (.inr hsource)), if_pos (by simp [hsource])]
  exact (Session.bind_of_ok hdownload _).trans rfl

/-- What a computation on the members of the credential comes to is computed from members that have
been loaded. -/
theorem exists_load_of_run' {α : Type} {f : Json.Members → α} {a : α}
    (h : (load server input source timeout >>= fun ms => pure (f ms) : Work σ α).run' w = some a) :
    ∃ ms u, load server input source timeout w = .ok ms u ∧ f ms = a := by
  delta EStateM.run' EStateM.run at h
  cases hload : load server input source timeout w with
  | error m u =>
    rw [Session.bind_of_error hload] at h
    cases h
  | ok ms u =>
    rw [Session.bind_of_ok hload] at h
    exact ⟨ms, u, rfl, Option.some.inj h⟩

end CommandLine
end Revocation
