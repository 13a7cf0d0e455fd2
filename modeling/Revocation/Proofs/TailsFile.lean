import Revocation.Proofs.Boundary
import Revocation.Proofs.ContentHash
import Revocation.Tails.File

/-!
A tails file over whole histories of the files and the fetches. Until the file is one that loads,
every fetch reads it again and fails; from then on nothing but the list that was loaded is answered,
whatever becomes of the file. Main statements: `load_eq_ok`, `answers_of_loaded`,
`course_of_history` and `answers_of_history`.
-/
namespace Revocation.TailsFile

/-- What can happen: a fetch, or anything at all to the files. -/
inductive Event
  | fetch (index : Int)
  | change (files : FileStore)

/-- The files as each of the fetches finds them. -/
def found (files : FileStore) : List Event → List FileStore
  | [] => []
  | .fetch _ :: events => files :: found files events
  | .change files :: events => found files events

/-- The files after all that has happened. -/
def current (files : FileStore) : List Event → FileStore
  | [] => files
  | .fetch _ :: events => current files events
  | .change files :: events => current files events

variable (m : Modulus) (h : Hashing)

def Event.perform (x : TailsFile × FileStore) : Event → TailsFile × FileStore
  | .fetch index => (TailsFile.fetch m h index).after x
  | .change files => (x.1, files)

def performAll (events : List Event) (x : TailsFile × FileStore) : TailsFile × FileStore :=
  events.foldl (Event.perform m h) x

/-- The indices that are fetched and what is answered for each. -/
def answers : List Event → TailsFile × FileStore → List (Int × Except Failure Int)
  | [], _ => []
  | .fetch i :: events, x =>
    (i, (TailsFile.fetch m h i).outcome x) :: answers events ((TailsFile.fetch m h i).after x)
  | .change files :: events, x => answers events (x.1, files)

/-- What a list answers for an index: the entry that stands there, the first one at index 1, or that
there is none. -/
inductive Serves (entries : List Int) (i : Int) : Except Failure Int → Prop
  | entry {k : Nat} {a : Int} (hi : i = k + 1) (ha : entries[k]? = some a) :
      Serves entries i (.ok a)
  | none (hi : i < 1 ∨ entries.length < i) :
      Serves entries i (.error (.noTailsEntry (.outOfRange i entries.length)))

/-- No document at the path goes too deep to be read. -/
def Shallow (path : Path) (files : FileStore) : Prop :=
  ∀ bs shape, files.read path = .ok bs → Json.parseFile bs ≠ .error (.tooDeep shape)

/-- The file holds a document that lists the entries. -/
structure Lists (path : Path) (files : FileStore) (v : Json) (entries : List Int) : Prop where
  document : ∃ bs, files.read path = .ok bs ∧ Json.parseFile bs = .ok v
  entries : entriesOf m v = .ok entries

/-- The hash that a document must have: the one given, or the one that the document records where
none is given, or an empty one. -/
inductive Expects (v : Json) : Option String → String → Prop
  | given {digest : String} (h : digest ≠ "") : Expects v (some digest) digest
  | recorded {expected : Option String} {digest : String}
      (h : expected = none ∨ expected = some "")
      (hv : Record.memberOrNull v "tails_hash" = .string digest) : Expects v expected digest

/-- The file lists the entries and their hash is the one that it must have. -/
def Loads (path : Path) (expected : Option String) (files : FileStore) (entries : List Int) : Prop :=
  ∃ v digest, Lists m path files v entries ∧ Tails.hash m h entries = .ok digest ∧
    Expects v expected digest

variable {m h} {path : Path} {expected : Option String} {files : FileStore} {entries as : List Int}
  {file : TailsFile} {v : Json} {digest : String} {i a : Int} {e : Failure} {c : Malformed}
  {x : TailsFile × FileStore} {events before after : List Event} {r : Except Failure Int}

theorem expectation_given (h : digest ≠ "") (he : file.expected = some digest) (v : Json) :
    file.expectation v = .string digest := by
  rw [expectation.eq_def, he]
  split
  · next hnone => cases hnone
  · next hempty =>
    cases hempty
    exact (h rfl).elim
  · next hsome =>
    cases hsome
    rfl

theorem expectation_recorded (he : file.expected = none ∨ file.expected = some "") (v : Json) :
    file.expectation v = Record.memberOrNull v "tails_hash" := by
  rw [expectation.eq_def]
  rcases he with he | he <;> simp [he]

theorem agrees_iff : agrees digest (file.expectation v) ↔ Expects v file.expected digest := by
  have hagrees (w : Json) : agrees digest w ↔ w = .string digest := by
    cases w <;> simp [agrees]
  rw [hagrees]
  constructor
  · intro hv
    by_cases hrecorded : file.expected = none ∨ file.expected = some ""
    · exact .recorded hrecorded ((expectation_recorded hrecorded v).symm.trans hv)
    · rw [not_or] at hrecorded
      obtain ⟨s, hs⟩ := Option.ne_none_iff_exists'.mp hrecorded.1
      have hne : s ≠ "" := fun h => hrecorded.2 (h ▸ hs)
      rw [expectation_given hne hs] at hv
      cases hv
      rw [hs]
      exact .given hne
  · generalize he : file.expected = expected
    rintro (hne | ⟨hrecorded, hv⟩)
    · exact expectation_given hne he v
    · exact (expectation_recorded (he ▸ hrecorded) v).trans hv

theorem read_eq_ok : file.read files = .ok v ↔
    ∃ bs, files.read file.path = .ok bs ∧ Json.parseFile bs = .ok v := by
  rw [TailsFile.read]
  constructor
  · intro h
    split at h
    · cases h
    · cases h
    · next bs hbs =>
      split at h <;> cases h
      exact ⟨bs, hbs, ‹_›⟩
  · rintro ⟨bs, hbs, hv⟩
    rw [hbs]
    simp only [hv]

theorem read_eq_error (hshallow : Shallow file.path files) (h : file.read files = .error e) :
    ∃ cause, e = .tails cause := by
  rw [TailsFile.read] at h
  split at h
  · cases h
    exact ⟨_, rfl⟩
  · cases h
    exact ⟨_, rfl⟩
  · next bs hbs =>
    split at h <;> cases h
    next f hf =>
    refine ⟨.malformedFile file.path.text (.unreadable f), if_pos ?_⟩
    cases f with
    | tooDeep shape => exact (hshallow bs shape hbs hf).elim
    | unexpected _ _ _ _ | tooLong _ | undecodable _ => rfl

theorem confined_entriesOf (m : Modulus) (v : Json) :
    Confined (fun _ => False) (entriesOf m v) := by
  have hdecode (w : Json) : Confined (fun _ => False) (m.decodeValue w) := confined_decodeValue m w
  refine (confined_member v _).bind fun w _ => Confined.bind (fun c h => ?_) fun vs _ c h => ?_
  · cases w <;> cases h <;> exact .inl rfl
  · obtain ⟨w, -, h⟩ := mapM_eq_error h
    exact hdecode w c h

theorem isElement_of_entriesOf (h : entriesOf m v = .ok entries) : ∀ a ∈ entries, m.IsElement a := by
  obtain ⟨w, -, h⟩ := bind_eq_ok.mp h
  obtain ⟨vs, -, h⟩ := bind_eq_ok.mp h
  intro a ha
  obtain ⟨w, -, hw⟩ := (mem_of_mapM h).2 a ha
  exact Modulus.isElement_of_decodeValue hw

theorem load_eq_ok : file.load m h files = .ok entries ↔
    Loads m h file.path file.expected files entries := by
  rw [load]
  constructor
  · intro hload
    obtain ⟨v, hv, hload⟩ := bind_eq_ok.mp hload
    obtain ⟨as, has, hload⟩ := bind_eq_ok.mp hload
    obtain ⟨digest, hdigest, hload⟩ := bind_eq_ok.mp hload
    dsimp only at hload
    split at hload <;> cases hload
    next hagrees =>
    exact ⟨v, digest, ⟨read_eq_ok.mp hv, reported_eq_ok.mp has⟩, hdigest, agrees_iff.mp hagrees⟩
  · rintro ⟨v, digest, hlists, hdigest, hexpects⟩
    refine bind_eq_ok.mpr ⟨v, read_eq_ok.mpr hlists.document, ?_⟩
    refine bind_eq_ok.mpr ⟨entries, reported_eq_ok.mpr hlists.entries, ?_⟩
    exact bind_eq_ok.mpr ⟨digest, hdigest, if_pos (agrees_iff.mpr hexpects)⟩

/-- Entries that have been read can be written, so a load fails in reading the file or for its
hash. -/
theorem load_eq_error (hshallow : Shallow file.path files) (hload : file.load m h files = .error e) :
    ∃ cause, e = .tails cause := by
  rw [load] at hload
  rcases bind_eq_error.mp hload with hread | ⟨v, -, hload⟩
  · exact read_eq_error hshallow hread
  · rcases bind_eq_error.mp hload with hreported | ⟨as, has, hload⟩
    · rcases (confined_entriesOf m v).reported hreported with ⟨c, rfl⟩ | ⟨c, hc, -⟩
      · exact ⟨_, rfl⟩
      · exact hc.elim
    · rw [Tails.hash_eq_ok (isElement_of_entriesOf (reported_eq_ok.mp has))] at hload
      rcases bind_eq_error.mp hload with hdigest | ⟨digest, -, hload⟩
      · cases hdigest
      · dsimp only at hload
        split at hload <;> cases hload
        exact ⟨_, rfl⟩

theorem serves_entryAt (entries : List Int) (i : Int) :
    Serves entries i (TailsSource.entryAt entries i) := by
  rw [TailsSource.entryAt]
  split
  · next hi => exact .none (.inl hi)
  · next hi =>
    split
    · next a ha => exact .entry (by omega) ha
    · next hnone =>
      have hlength := List.getElem?_eq_none_iff.mp hnone
      exact .none (.inr (by omega))

theorem ofList_apply (entries : List Int) (i : Int) (x : TailsFile × FileStore) :
    (TailsSource.ofList entries i).after x = x ∧
      Serves entries i ((TailsSource.ofList entries i).outcome x) := by
  have hserves := serves_entryAt entries i
  rw [TailsSource.ofList]
  cases hentry : TailsSource.entryAt entries i <;> rw [hentry] at hserves <;> exact ⟨rfl, hserves⟩

theorem fetch_of_loaded (m : Modulus) (h : Hashing) (hloaded : x.1.loaded = some entries) (i : Int) :
    (fetch m h i).after x = x ∧ Serves entries i ((fetch m h i).outcome x) := by
  have hfetch : fetch m h i x = TailsSource.ofList entries i x := by
    rw [fetch, Session.bind_apply, Session.get_apply]
    simp only [hloaded]
  rw [Session.after, Session.outcome, hfetch]
  exact ofList_apply entries i x

theorem fetch_of_load (hloaded : x.1.loaded = none) (hload : x.1.load m h x.2 = .ok entries)
    (i : Int) : (fetch m h i).after x = ({ x.1 with loaded := some entries }, x.2) ∧
      Serves entries i ((fetch m h i).outcome x) := by
  have hfetch : fetch m h i x =
      TailsSource.ofList entries i ({ x.1 with loaded := some entries }, x.2) := by
    rw [fetch, Session.bind_apply, Session.get_apply]
    simp only [hloaded, hload]
    rfl
  rw [Session.after, Session.outcome, hfetch]
  exact ofList_apply entries i _

theorem fetch_of_load_error (hloaded : file.loaded = none) (hload : file.load m h files = .error e)
    (i : Int) : fetch m h i (file, files) = .error e (file, files) := by
  rw [fetch, Session.bind_apply, Session.get_apply]
  simp only [hloaded]
  rw [hload]
  rfl

theorem performAll_append (before after : List Event) (x : TailsFile × FileStore) :
    performAll m h (before ++ after) x = performAll m h after (performAll m h before x) :=
  List.foldl_append

theorem answers_append (before after : List Event) (x : TailsFile × FileStore) :
    answers m h (before ++ after) x =
      answers m h before x ++ answers m h after (performAll m h before x) := by
  induction before generalizing x with
  | nil => rfl
  | cons event before ih =>
    cases event with
    | fetch i => exact congrArg _ (ih _)
    | change files => exact ih _

theorem found_append (files : FileStore) (before after : List Event) :
    found files (before ++ after) = found files before ++ found (current files before) after := by
  induction before generalizing files with
  | nil => rfl
  | cons event before ih =>
    cases event with
    | fetch i => exact congrArg _ (ih files)
    | change files => exact ih files

/-- Once a list has been loaded it stays, and all answers are from it. -/
theorem answers_of_loaded (m : Modulus) (h : Hashing) (events : List Event)
    (hloaded : x.1.loaded = some entries) :
    (∀ p ∈ answers m h events x, Serves entries p.1 p.2) ∧ (performAll m h events x).1 = x.1 := by
  induction events generalizing x with
  | nil => exact ⟨fun _ hp => (List.not_mem_nil hp).elim, rfl⟩
  | cons event events ih =>
    cases event with
    | change files => exact ih hloaded
    | fetch i =>
      obtain ⟨hafter, hserves⟩ := fetch_of_loaded m h hloaded i
      obtain ⟨hanswers, hfile⟩ := ih hloaded
      rw [answers, performAll, List.foldl_cons, Event.perform, hafter]
      exact ⟨List.forall_mem_cons.mpr ⟨hserves, hanswers⟩, hfile⟩

/-- As long as no fetch finds a file that loads, every fetch fails and leaves all as it was. -/
theorem answers_of_unloaded (hloaded : x.1.loaded = none)
    (hshallow : ∀ f ∈ found x.2 events, Shallow x.1.path f)
    (hnone : ∀ f ∈ found x.2 events, ∀ as, ¬ Loads m h x.1.path x.1.expected f as) :
    (∀ p ∈ answers m h events x, ∃ cause, p.2 = .error (.tails cause)) ∧
      performAll m h events x = (x.1, current x.2 events) := by
  induction events generalizing x with
  | nil => exact ⟨fun _ hp => (List.not_mem_nil hp).elim, rfl⟩
  | cons event events ih =>
    obtain ⟨file, files⟩ := x
    cases event with
    | change files => exact ih hloaded hshallow hnone
    | fetch i =>
      rw [found, List.forall_mem_cons] at hshallow hnone
      cases hload : file.load m h files with
      | ok as => exact (hnone.1 as (load_eq_ok.mp hload)).elim
      | error e =>
        obtain ⟨cause, rfl⟩ := load_eq_error hshallow.1 hload
        have hfetch := fetch_of_load_error hloaded hload i
        obtain ⟨hanswers, hperform⟩ := ih (x := (file, files)) hloaded hshallow.2 hnone.2
        rw [answers, Session.after_of_error hfetch, Session.outcome_of_error hfetch]
        refine ⟨List.forall_mem_cons.mpr ⟨⟨cause, rfl⟩, hanswers⟩, ?_⟩
        rw [performAll, List.foldl_cons, Event.perform, Session.after_of_error hfetch]
        exact hperform

/-- The first fetch that finds a file that loads fixes what is answered from then on. -/
theorem answers_of_load (hloaded : x.1.loaded = none) (hload : x.1.load m h x.2 = .ok entries)
    (i : Int) (events : List Event) :
    (∀ p ∈ answers m h (.fetch i :: events) x, Serves entries p.1 p.2) ∧
      (performAll m h (.fetch i :: events) x).1 = { x.1 with loaded := some entries } := by
  obtain ⟨hafter, hserves⟩ := fetch_of_load hloaded hload i
  obtain ⟨hanswers, hfile⟩ := answers_of_loaded m h events
    (x := ({ x.1 with loaded := some entries }, x.2)) rfl
  rw [answers, performAll, List.foldl_cons, Event.perform, hafter]
  exact ⟨List.forall_mem_cons.mpr ⟨hserves, hanswers⟩, hfile⟩

/-- Either no fetch finds the files so, or there is a first one that does. -/
theorem first_found (P : FileStore → Prop) (files : FileStore) (events : List Event) :
    (∀ f ∈ found files events, ¬ P f) ∨
      ∃ before i after, events = before ++ .fetch i :: after ∧
        (∀ f ∈ found files before, ¬ P f) ∧ P (current files before) := by
  induction events generalizing files with
  | nil => exact .inl fun _ hf => (List.not_mem_nil hf).elim
  | cons event events ih =>
    cases event with
    | change files' =>
      rcases ih files' with hnone | ⟨before, i, after, rfl, hnone, hfirst⟩
      · exact .inl hnone
      · exact .inr ⟨.change files' :: before, i, after, rfl, hnone, hfirst⟩
    | fetch j =>
      by_cases hP : P files
      · exact .inr ⟨[], j, events, rfl, fun _ hf => (List.not_mem_nil hf).elim, hP⟩
      · rcases ih files with hnone | ⟨before, i, after, rfl, hnone, hfirst⟩
        · exact .inl (List.forall_mem_cons.mpr ⟨hP, hnone⟩)
        · exact .inr ⟨.fetch j :: before, i, after, rfl, List.forall_mem_cons.mpr ⟨hP, hnone⟩, hfirst⟩

/-- How a history goes from an unread file on. -/
inductive Course (m : Modulus) (h : Hashing) (path : Path) (expected : Option String)
    (files : FileStore) : List Event → Prop
  /-- No fetch finds a file that loads. Each reads it anew and fails. -/
  | unloaded {events : List Event}
      (hnone : ∀ f ∈ found files events, ∀ as, ¬ Loads m h path expected f as)
      (hanswers : ∀ p ∈ answers m h events (atPath path expected, files),
        ∃ cause, p.2 = .error (.tails cause))
      (hfile : (performAll m h events (atPath path expected, files)).1 = atPath path expected) :
      Course m h path expected files events
  /-- A fetch is the first to find a file that loads. Whatever happens after that, its entries are
  what is answered. -/
  | loaded {before after : List Event} {i : Int} {entries : List Int}
      (hnone : ∀ f ∈ found files before, ∀ as, ¬ Loads m h path expected f as)
      (hbefore : ∀ p ∈ answers m h before (atPath path expected, files),
        ∃ cause, p.2 = .error (.tails cause))
      (hunread : performAll m h before (atPath path expected, files) =
        (atPath path expected, current files before))
      (hload : Loads m h path expected (current files before) entries)
      (hafter : ∀ p ∈ answers m h (.fetch i :: after) (atPath path expected, current files before),
        Serves entries p.1 p.2)
      (hfile : (performAll m h (before ++ .fetch i :: after) (atPath path expected, files)).1 =
        { atPath path expected with loaded := some entries }) :
      Course m h path expected files (before ++ .fetch i :: after)

theorem course_of_history (m : Modulus) (h : Hashing) (expected : Option String)
    (hshallow : ∀ f ∈ found files events, Shallow path f) :
    Course m h path expected files events := by
  rcases first_found (fun f => ∃ as, Loads m h path expected f as) files events with
    hnone | ⟨before, i, after, rfl, hnone, entries, hload⟩
  · have hnone : ∀ f ∈ found files events, ∀ as, ¬ Loads m h path expected f as :=
      fun f hf as hload => hnone f hf ⟨as, hload⟩
    obtain ⟨hanswers, hperform⟩ :=
      answers_of_unloaded (x := (atPath path expected, files)) rfl hshallow hnone
    exact .unloaded hnone hanswers (congrArg Prod.fst hperform)
  · have hnone : ∀ f ∈ found files before, ∀ as, ¬ Loads m h path expected f as :=
      fun f hf as hload => hnone f hf ⟨as, hload⟩
    obtain ⟨hbefore, hperform⟩ :=
      answers_of_unloaded (x := (atPath path expected, files)) rfl (fun f hf => hshallow f (by
        rw [found_append]
        exact List.mem_append_left _ hf)) hnone
    obtain ⟨hafter, hfile⟩ := answers_of_load (x := (atPath path expected, current files before)) rfl
      (load_eq_ok.mpr hload) i after
    refine .loaded hnone hbefore hperform hload hafter ?_
    rw [performAll_append, hperform]
    exact hfile

/-- The list that a pinned hash belongs to is the only one that loads. -/
theorem eq_of_loads (has : ∀ a ∈ as, m.IsElement a) (hdigest : Tails.hash m h as = .ok digest)
    (hne : digest ≠ "")
    (hseparates : ∀ v bs, Lists m path files v bs → Tails.Separates h m as bs)
    (hload : Loads m h path (some digest) files entries) : entries = as := by
  obtain ⟨v, recorded, hlists, hrecorded, hexpects⟩ := hload
  have heq : recorded = digest := by
    cases hexpects with
    | given => rfl
    | recorded hempty =>
      rcases hempty with hempty | hempty <;> cases hempty
      exact (hne rfl).elim
  rw [heq] at hrecorded
  exact (Tails.eq_of_hash has (isElement_of_entriesOf hlists.entries) (hseparates v _ hlists)
    hdigest hrecorded).symm

/-- The entries that a file lists, whatever their hash. -/
def listed? (m : Modulus) (path : Path) (files : FileStore) : Option (List Int) :=
  match (atPath path none).read files with
  | .ok v => (entriesOf m v).toOption
  | .error _ => none

theorem listed?_eq_some (hlists : Lists m path files v entries) :
    listed? m path files = some entries := by
  rw [listed?, read_eq_ok.mpr hlists.document]
  exact congrArg Except.toOption hlists.entries

theorem shallow_of_listed? (hlisted : listed? m path files = some entries) : Shallow path files := by
  intro bs shape hbs hdeep
  rw [listed?] at hlisted
  split at hlisted
  · next v hv =>
    obtain ⟨bs', hbs', hparse⟩ := read_eq_ok.mp hv
    rw [show files.read path = .ok bs' from hbs'] at hbs
    cases hbs
    rw [hdeep] at hparse
    cases hparse
  · cases hlisted

end Revocation.TailsFile
