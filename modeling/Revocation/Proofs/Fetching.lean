import Revocation.Proofs.Composition

/-!
What is asked of a source of tails, and in which order. Whatever combines entries fetches the
factors of a list one after the other, up to the first one that cannot be had; it stops there, and
nothing else is asked for. Main statements: `foldlM_apply`, `fetched_or_breaks`, and `Breaks.noted`
and `mapM_fetched_noted`, which say what a source has been asked for.
-/
namespace Revocation

/-- The failures of a witness that proves nothing. -/
def Failure.isInvalidWitness : Failure → Bool
  | .initialWitnessInvalid _ => true
  | .updatedWitnessInvalid _ => true
  | _ => false

namespace Factor

variable {σ : Type} (tails : TailsSource σ) (m : Modulus)

def index : Factor → Int
  | .out i => i
  | .into i => i

/-- What an entry is combined as. -/
def turned : Factor → Int → Except Failure Int
  | .out _, a => m.inverse a
  | .into _, a => .ok a

def fetched (f : Factor) : Session σ Int := do
  Session.ofExcept (f.turned m (← tails f.index))

def apply (omega : Int) (f : Factor) : Session σ Int := do
  return m.combine omega (← f.fetched tails m)

variable {tails m}

theorem fetched_into (i : Int) : (into i).fetched tails m = tails i := bind_pure _

theorem map_index_out (is : List Int) : (is.map out).map index = is := by
  rw [List.map_map]
  exact List.map_id is

theorem map_index_into (is : List Int) : (is.map into).map index = is := by
  rw [List.map_map]
  exact List.map_id is

theorem foldlM_apply (a : Int) (fs : List Factor) : fs.foldlM (apply tails m) a = do
    return m.multiply a (← fs.mapM (fetched tails m)) :=
  Session.foldlM_eq_mapM m.combine (fetched tails m) fs a

end Factor

namespace TailsSource

open Factor

variable {σ : Type} {tails : TailsSource σ} {m : Modulus} {s t : σ} {f : Factor}
  {fs asked : List Factor} {e : Failure}

theorem including_eq_factors (a : Int) (is : List Int) :
    tails.including m a is = (is.map .into).foldlM (Factor.apply tails m) a := by
  rw [List.foldlM_map]
  simp only [Factor.apply, fetched_into]
  rfl

theorem excluding_eq_factors (a : Int) (is : List Int) :
    tails.excluding m a is = (is.map .out).foldlM (Factor.apply tails m) a := by
  rw [List.foldlM_map]
  simp only [Factor.apply, fetched, bind_assoc]
  rfl

/-- Writes down the indices that it is asked for, in the order of the requests. -/
def noted (tails : TailsSource σ) : TailsSource (List Int × σ) := fun index (asked, s) =>
  Session.inner (tails index) (asked ++ [index], s)

theorem fetched_noted (f : Factor) (log : List Int) (s : σ) :
    f.fetched tails.noted m (log, s) =
      Session.inner (f.fetched tails m) (log ++ [f.index], s) := by
  rw [fetched, fetched, Session.inner_bind]
  simp only [Session.inner_ofExcept, Session.bind_apply, noted]

theorem fetched_noted_of_ok {c : Int} (h : f.fetched tails m s = .ok c t)
    (log : List Int) : f.fetched tails.noted m (log, s) = .ok c (log ++ [f.index], t) := by
  rw [fetched_noted, Session.inner_of_ok h]

theorem mapM_fetched_noted {cs : List Int} (h : fs.mapM (fetched tails m) s = .ok cs t)
    (log : List Int) :
    fs.mapM (fetched tails.noted m) (log, s) = .ok cs (log ++ fs.map index, t) := by
  induction fs generalizing s cs log with
  | nil =>
    cases h
    rw [List.map_nil, List.append_nil]
    rfl
  | cons f fs ih =>
    obtain ⟨c, u, rest, hc, hrest, rfl⟩ := Session.mapM_cons_eq_ok.mp h
    have hnoted := ih hrest (log ++ [f.index])
    rw [List.append_assoc] at hnoted
    exact Session.mapM_cons_eq_ok.mpr ⟨c, _, rest, fetched_noted_of_ok hc log, hnoted, rfl⟩

/-- Why a factor cannot be had: for its entry, or for an inverse of it. -/
inductive Stops (tails : TailsSource σ) (m : Modulus) (s : σ) : Factor → Failure → σ → Prop
  | fetch {f : Factor} {e : Failure} {t : σ} (h : tails f.index s = .error e t) :
      Stops tails m s f e t
  | inverse {i a : Int} {t : σ} (h : tails i s = .ok a t) (ha : ¬ IsCoprime a m.value) :
      Stops tails m s (.out i) .notInvertible t

theorem fetched_eq_error :
    f.fetched tails m s = .error e t ↔ Stops tails m s f e t := by
  rw [fetched, Session.bind_eq_error]
  constructor
  · rintro (h | ⟨a, u, h, hturned⟩)
    · exact .fetch h
    · cases f with
      | into i => cases hturned
      | out i =>
        cases hinverse : m.inverse a with
        | ok c =>
          rw [turned, hinverse] at hturned
          cases hturned
        | error e' =>
          rw [turned, hinverse] at hturned
          cases hturned
          obtain ⟨ha, rfl⟩ := Modulus.inverse_eq_error.mp hinverse
          exact .inverse h ha
  · intro h
    cases h with
    | fetch h => exact .inl h
    | inverse h ha =>
      refine .inr ⟨_, _, h, ?_⟩
      rw [turned, Modulus.inverse_eq_error.mpr ⟨ha, rfl⟩]
      rfl

/-- One factor after the other can be had, up to one that cannot. -/
inductive Breaks (tails : TailsSource σ) (m : Modulus) :
    σ → List Factor → List Factor → Failure → σ → Prop
  | here {s t : σ} {f : Factor} {fs : List Factor} {e : Failure} (h : Stops tails m s f e t) :
      Breaks tails m s (f :: fs) [f] e t
  | later {s u t : σ} {f : Factor} {fs asked : List Factor} {c : Int} {e : Failure}
      (h : f.fetched tails m s = .ok c u) (next : Breaks tails m u fs asked e t) :
      Breaks tails m s (f :: fs) (f :: asked) e t

theorem Breaks.run (h : Breaks tails m s fs asked e t) :
    fs.mapM (fetched tails m) s = .error e t := by
  induction h with
  | here h =>
    rw [List.mapM_cons]
    exact Session.bind_of_error (fetched_eq_error.mpr h) _
  | later h _ ih =>
    rw [List.mapM_cons, Session.bind_of_ok h]
    exact Session.bind_of_error ih _

theorem Breaks.isPrefix (h : Breaks tails m s fs asked e t) : asked <+: fs := by
  induction h with
  | here _ => exact List.prefix_cons_inj _ |>.mpr (List.nil_prefix)
  | later _ _ ih => exact List.prefix_cons_inj _ |>.mpr ih

/-- The source has been asked for the indices up to the factor that could not be had. -/
theorem Breaks.noted (h : Breaks tails m s fs asked e t) (log : List Int) :
    Breaks tails.noted m (log, s) fs asked e (log ++ asked.map index, t) := by
  induction h generalizing log with
  | here h =>
    rw [← fetched_eq_error] at h
    refine .here (fetched_eq_error.mp ?_)
    rw [fetched_noted, Session.inner_of_error h]
    rfl
  | later h _ ih =>
    rw [List.map_cons, List.append_cons]
    exact .later (fetched_noted_of_ok h log) (ih _)

/-- The source does not fail as if it had looked at a witness. -/
def NeverJudges (tails : TailsSource σ) : Prop :=
  ∀ i, Session.FailsOnly (fun e => e.isInvalidWitness = false) (tails i)

theorem Breaks.isInvalidWitness (h : Breaks tails m s fs asked e t) (hown : tails.NeverJudges) :
    e.isInvalidWitness = false := by
  induction h with
  | here h =>
    cases h with
    | fetch h => exact hown _ _ _ _ h
    | inverse _ _ => rfl
  | later _ _ ih => exact ih

/-- All factors can be had, or the first ones up to one that cannot. -/
theorem fetched_or_breaks (tails : TailsSource σ) (m : Modulus) (s : σ) (fs : List Factor) :
    (∃ cs t, fs.mapM (fetched tails m) s = .ok cs t) ∨
      ∃ asked e t, Breaks tails m s fs asked e t := by
  induction fs generalizing s with
  | nil => exact .inl ⟨[], s, rfl⟩
  | cons f fs ih =>
    cases hf : f.fetched tails m s with
    | error e t => exact .inr ⟨[f], e, t, .here (fetched_eq_error.mp hf)⟩
    | ok c u =>
      rcases ih u with ⟨cs, t, hcs⟩ | ⟨asked, e, t, hbreaks⟩
      · exact .inl ⟨c :: cs, t, Session.mapM_cons_eq_ok.mpr ⟨c, u, cs, hf, hcs, rfl⟩⟩
      · exact .inr ⟨f :: asked, e, t, .later hf hbreaks⟩

/-- The entries of all factors, one fetched after the other: of those that go in, and of those that
go out. -/
inductive Gathers (tails : TailsSource σ) : σ → List Factor → List Int → List Int → σ → Prop
  | nil {s : σ} : Gathers tails s [] [] [] s
  | out {s u t : σ} {i a : Int} {fs : List Factor} {ins outs : List Int}
      (h : tails i s = .ok a u) (next : Gathers tails u fs ins outs t) :
      Gathers tails s (.out i :: fs) ins (a :: outs) t
  | into {s u t : σ} {i a : Int} {fs : List Factor} {ins outs : List Int}
      (h : tails i s = .ok a u) (next : Gathers tails u fs ins outs t) :
      Gathers tails s (.into i :: fs) (a :: ins) outs t

theorem fetched_out_eq_ok {i c : Int} :
    (Factor.out i).fetched tails m s = .ok c t ↔
      ∃ a, tails i s = .ok a t ∧ m.invert? a = some c := by
  simp only [fetched, Session.bind_eq_ok, turned, ← Modulus.inverse_eq_ok]
  constructor
  · rintro ⟨a, u, ha, hturned⟩
    cases hinverse : m.inverse a with
    | error e =>
      rw [hinverse] at hturned
      cases hturned
    | ok b =>
      rw [hinverse] at hturned
      cases hturned
      exact ⟨a, ha, hinverse⟩
  · rintro ⟨a, ha, hinverse⟩
    refine ⟨a, t, ha, ?_⟩
    rw [hinverse]
    rfl

/-- The entry that goes in last. -/
theorem Gathers.split_into {i : Int} {ins outs : List Int}
    (h : Gathers tails s (fs ++ [.into i]) ins outs t) : ∃ before a u,
      Gathers tails s fs before outs u ∧ tails i u = .ok a t ∧ ins = before ++ [a] := by
  induction fs generalizing s ins outs with
  | nil =>
    cases h with
    | into h next =>
      cases next
      exact ⟨[], _, s, .nil, h, rfl⟩
  | cons f fs ih =>
    cases h with
    | out h next =>
      obtain ⟨before, a, u, hgathers, ha, rfl⟩ := ih next
      exact ⟨before, a, u, .out h hgathers, ha, rfl⟩
    | into h next =>
      obtain ⟨before, a, u, hgathers, ha, rfl⟩ := ih next
      exact ⟨_ :: before, a, u, .into h hgathers, ha, rfl⟩

/-- Where what goes out has inverses, all factors can be had. -/
theorem Gathers.exists_fetched {ins outs inverses : List Int}
    (h : Gathers tails s fs ins outs t) (hinverses : outs.mapM m.invert? = some inverses) :
    ∃ cs, fs.mapM (fetched tails m) s = .ok cs t ∧ cs.prod = ins.prod * inverses.prod := by
  induction h generalizing inverses with
  | nil =>
    cases hinverses
    exact ⟨[], rfl, rfl⟩
  | out h _ ih =>
    obtain ⟨c, rest, hc, hrest, rfl⟩ := Modulus.mapM_invert?_cons.mp hinverses
    obtain ⟨cs, hcs, hprod⟩ := ih hrest
    have hfetched := fetched_out_eq_ok.mpr ⟨_, h, hc⟩
    refine ⟨c :: cs, Session.mapM_cons_eq_ok.mpr ⟨c, _, cs, hfetched, hcs, rfl⟩, ?_⟩
    rw [List.prod_cons, List.prod_cons, hprod, mul_left_comm]
  | @into s u _ i a _ _ _ h _ ih =>
    obtain ⟨cs, hcs, hprod⟩ := ih hinverses
    have hfetched : (Factor.into i).fetched tails m s = .ok a u := by rw [fetched_into, h]
    refine ⟨a :: cs, Session.mapM_cons_eq_ok.mpr ⟨a, u, cs, hfetched, hcs, rfl⟩, ?_⟩
    rw [List.prod_cons, List.prod_cons, hprod, mul_assoc]

theorem exists_gathers {cs : List Int} (h : fs.mapM (fetched tails m) s = .ok cs t) :
    ∃ ins outs inverses, Gathers tails s fs ins outs t ∧ outs.mapM m.invert? = some inverses := by
  induction fs generalizing s cs with
  | nil =>
    cases h
    exact ⟨[], [], [], .nil, rfl⟩
  | cons f fs ih =>
    obtain ⟨c, u, rest, hc, hrest, rfl⟩ := Session.mapM_cons_eq_ok.mp h
    obtain ⟨ins, outs, inverses, hgathers, hinverses⟩ := ih hrest
    cases f with
    | out i =>
      obtain ⟨a, ha, hinverse⟩ := fetched_out_eq_ok.mp hc
      exact ⟨ins, a :: outs, c :: inverses, .out ha hgathers,
        Modulus.mapM_invert?_cons.mpr ⟨c, inverses, hinverse, hinverses, rfl⟩⟩
    | into i =>
      rw [fetched_into] at hc
      exact ⟨c :: ins, outs, inverses, .into hc hgathers, hinverses⟩

/-- Every entry is there, and those that go out can be inverted. -/
def Supplies (tails : TailsSource σ) (m : Modulus) (s : σ) (fs : List Factor) : Prop :=
  ∃ ins outs t, Gathers tails s fs ins outs t ∧ ∀ b, b ∈ outs → IsCoprime b m.value

theorem supplies_iff :
    tails.Supplies m s fs ↔ ∃ cs t, fs.mapM (fetched tails m) s = .ok cs t := by
  constructor
  · rintro ⟨ins, outs, t, hgathers, hcoprime⟩
    obtain ⟨inverses, hinverses⟩ := Modulus.exists_inverses_iff.mpr hcoprime
    obtain ⟨cs, hcs, -⟩ := hgathers.exists_fetched hinverses
    exact ⟨cs, t, hcs⟩
  · rintro ⟨cs, t, h⟩
    obtain ⟨ins, outs, inverses, hgathers, hinverses⟩ := exists_gathers h
    exact ⟨ins, outs, t, hgathers, Modulus.exists_inverses_iff.mp ⟨inverses, hinverses⟩⟩

end TailsSource
end Revocation
