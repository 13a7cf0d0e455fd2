import Revocation.Failure

/-!
How computations over a state run. A chain of steps fails where the first of them does, in the state
that this step has come to, and steps on the second part of a state leave the first part alone.
`Yields` is for computations whose value does not depend on the state, as long as it is a good one.
-/
namespace Revocation.Session

variable {ε ρ σ α β : Type}

theorem bind_apply (x : EStateM ε σ α) (f : α → EStateM ε σ β) (s : σ) :
    (x >>= f) s = match x s with
      | .ok a t => f a t
      | .error e t => .error e t := by
  change EStateM.bind x f s = _
  rw [EStateM.bind]
  cases x s <;> rfl

theorem bind_of_ok {x : EStateM ε σ α} {s t : σ} {a : α} (h : x s = .ok a t)
    (f : α → EStateM ε σ β) : (x >>= f) s = f a t := by
  rw [bind_apply, h]

theorem bind_of_error {x : EStateM ε σ α} {s t : σ} {e : ε} (h : x s = .error e t)
    (f : α → EStateM ε σ β) : (x >>= f) s = .error e t := by
  rw [bind_apply, h]

theorem bind_eq_ok {x : EStateM ε σ α} {f : α → EStateM ε σ β} {s t : σ} {b : β} :
    (x >>= f) s = .ok b t ↔ ∃ a u, x s = .ok a u ∧ f a u = .ok b t := by
  rw [bind_apply]
  cases h : x s with
  | ok a u =>
    constructor
    · intro hf
      exact ⟨a, u, rfl, hf⟩
    · rintro ⟨a, u, hx, hf⟩
      cases hx
      exact hf
  | error e u => simp

theorem bind_eq_error {x : EStateM ε σ α} {f : α → EStateM ε σ β} {s t : σ} {e : ε} :
    (x >>= f) s = .error e t ↔ x s = .error e t ∨ ∃ a u, x s = .ok a u ∧ f a u = .error e t := by
  rw [bind_apply]
  cases h : x s with
  | ok a u =>
    constructor
    · intro hf
      exact .inr ⟨a, u, rfl, hf⟩
    · rintro (hx | ⟨a, u, hx, hf⟩)
      · cases hx
      · cases hx
        exact hf
  | error e' u => simp

/-- What each step of a loop keeps of the state, the whole loop keeps. -/
theorem foldlM_keeps_state {P : σ → Prop} {f : β → α → Session σ β} {as : List α}
    (hf : ∀ a, a ∈ as → ∀ b s b' t, P s → f b a s = .ok b' t → P t) {b b' : β} {s t : σ}
    (hs : P s) (h : as.foldlM f b s = .ok b' t) : P t := by
  induction as generalizing b s with
  | nil =>
    cases h
    exact hs
  | cons a as ih =>
    obtain ⟨ha, has⟩ := List.forall_mem_cons.mp hf
    rw [List.foldlM_cons] at h
    obtain ⟨b₁, u, hstep, hrest⟩ := bind_eq_ok.mp h
    exact ih has (ha b s b₁ u hs hstep) hrest

/-- What each step of a loop keeps, the whole loop keeps. -/
theorem foldlM_keeps {P : β → Prop} {f : β → α → Session σ β}
    (hf : ∀ b a s b' t, P b → f b a s = .ok b' t → P b') {as : List α} {b b' : β} {s t : σ}
    (hb : P b) (h : as.foldlM f b s = .ok b' t) : P b' := by
  induction as generalizing b s with
  | nil =>
    cases h
    exact hb
  | cons a as ih =>
    rw [List.foldlM_cons] at h
    obtain ⟨b₁, u, hstep, hrest⟩ := bind_eq_ok.mp h
    exact ih (hf b a s b₁ u hb hstep) hrest

/-- Whatever state it starts in, the computation fails for causes of one kind only. -/
def FailsOnly (P : ε → Prop) (x : EStateM ε σ α) : Prop := ∀ s e t, x s = .error e t → P e

theorem failsOnly_pure {P : ε → Prop} (a : α) : FailsOnly P (pure a : EStateM ε σ α) := nofun

theorem failsOnly_throw {P : ε → Prop} {e : ε} (he : P e) :
    FailsOnly P (throw e : EStateM ε σ α) := by
  intro s e' t h
  cases h
  exact he

theorem failsOnly_throw_bind {P : ε → Prop} {e : ε} (he : P e) (f : α → EStateM ε σ β) :
    FailsOnly P ((throw e : EStateM ε σ α) >>= f) := by
  intro s e' t h
  cases h
  exact he

theorem failsOnly_get {P : ε → Prop} : FailsOnly P (get : EStateM ε σ σ) := nofun

theorem failsOnly_set {P : ε → Prop} (s : σ) : FailsOnly P (set s : EStateM ε σ PUnit) := nofun

theorem FailsOnly.bind {P : ε → Prop} {x : EStateM ε σ α} {f : α → EStateM ε σ β}
    (hx : FailsOnly P x) (hf : ∀ a, FailsOnly P (f a)) : FailsOnly P (x >>= f) := by
  intro s e t h
  rcases bind_eq_error.mp h with h | ⟨a, u, -, h⟩
  · exact hx s e t h
  · exact hf a u e t h

theorem failsOnly_foldlM {P : ε → Prop} {f : β → α → EStateM ε σ β}
    (hf : ∀ b a, FailsOnly P (f b a)) (as : List α) (b : β) : FailsOnly P (as.foldlM f b) := by
  induction as generalizing b with
  | nil => exact failsOnly_pure b
  | cons a as ih =>
    rw [List.foldlM_cons]
    exact (hf b a).bind ih

@[simp] theorem pure_apply (a : α) (s : σ) : (pure a : Session σ α) s = .ok a s := rfl

@[simp] theorem throw_apply (e : Failure) (s : σ) : (throw e : Session σ α) s = .error e s := rfl

@[simp] theorem get_apply (s : σ) : (get : Session σ σ) s = .ok s s := rfl

@[simp] theorem modify_apply (f : σ → σ) (s : σ) :
    (modify f : Session σ Unit) s = .ok () (f s) := rfl

@[simp] theorem ofExcept_ok (a : α) (s : σ) : ofExcept (.ok a) s = .ok a s := rfl

@[simp] theorem ofExcept_error (e : Failure) (s : σ) :
    (ofExcept (.error e) : Session σ α) s = .error e s := rfl

theorem ofExcept_eq_ok {x : Except Failure α} {s t : σ} {a : α} :
    ofExcept x s = .ok a t ↔ x = .ok a ∧ s = t := by
  cases x with
  | ok b => simp
  | error e => simp

theorem eq_ok_of_ofExcept {x : Except Failure α} {s t : σ} {a : α} (h : ofExcept x s = .ok a t) :
    x = .ok a :=
  (ofExcept_eq_ok.mp h).1

theorem eq_error_of_ofExcept {x : Except Failure α} {s t : σ} {e : Failure}
    (h : (ofExcept x : Session σ α) s = .error e t) : x = .error e := by
  cases x <;> cases h
  rfl

theorem failsOnly_ofExcept {P : Failure → Prop} {x : Except Failure α}
    (h : ∀ e, x = .error e → P e) : FailsOnly P (ofExcept x : Session σ α) :=
  fun _ e _ he => h e (eq_error_of_ofExcept he)

section

variable {γ : Type} {x : α → Session σ γ} {a : α} {as : List α} {cs : List γ} {s t : σ}

/-- A loop that combines what its steps come to may run the steps first. -/
theorem foldlM_eq_mapM (g : β → γ → β) (x : α → Session σ γ) (as : List α) (b : β) :
    (as.foldlM (fun b a => do return g b (← x a)) b : Session σ β) = do
      return (← as.mapM x).foldl g b := by
  induction as generalizing b with
  | nil => rfl
  | cons a as ih =>
    rw [List.foldlM_cons, List.mapM_cons]
    simp only [bind_assoc, pure_bind, ih, List.foldl_cons]

theorem mapM_cons_eq_ok : (a :: as).mapM x s = .ok cs t ↔
    ∃ c u rest, x a s = .ok c u ∧ as.mapM x u = .ok rest t ∧ cs = c :: rest := by
  rw [List.mapM_cons, bind_eq_ok]
  constructor
  · rintro ⟨c, u, hc, h⟩
    obtain ⟨rest, _, hrest, hlast⟩ := bind_eq_ok.mp h
    cases hlast
    exact ⟨c, u, rest, hc, hrest, rfl⟩
  · rintro ⟨c, u, rest, hc, hrest, rfl⟩
    exact ⟨c, u, hc, bind_eq_ok.mpr ⟨rest, t, hrest, rfl⟩⟩

theorem length_of_mapM (h : as.mapM x s = .ok cs t) : cs.length = as.length := by
  induction as generalizing s cs with
  | nil =>
    cases h
    rfl
  | cons a as ih =>
    obtain ⟨c, u, rest, -, hrest, rfl⟩ := mapM_cons_eq_ok.mp h
    rw [List.length_cons, List.length_cons, ih hrest]

theorem mapM_concat_eq_ok : (as ++ [a]).mapM x s = .ok cs t ↔
    ∃ rest u c, as.mapM x s = .ok rest u ∧ x a u = .ok c t ∧ cs = rest ++ [c] := by
  rw [List.mapM_append, bind_eq_ok]
  constructor
  · rintro ⟨rest, u, hrest, h⟩
    obtain ⟨one, _, hone, hlast⟩ := bind_eq_ok.mp h
    obtain ⟨c, _, none, hc, hnone, rfl⟩ := mapM_cons_eq_ok.mp hone
    cases hnone
    cases hlast
    exact ⟨rest, u, c, hrest, hc, rfl⟩
  · rintro ⟨rest, u, c, hrest, hc, rfl⟩
    have hone : [a].mapM x u = .ok [c] t := mapM_cons_eq_ok.mpr ⟨c, t, [], hc, rfl, rfl⟩
    exact ⟨rest, u, hrest, bind_eq_ok.mpr ⟨[c], t, hone, rfl⟩⟩

theorem mapM_concat_eq_error {e : Failure} : (as ++ [a]).mapM x s = .error e t ↔
    as.mapM x s = .error e t ∨ ∃ rest u, as.mapM x s = .ok rest u ∧ x a u = .error e t := by
  rw [List.mapM_append, bind_eq_error]
  refine or_congr Iff.rfl (exists₂_congr fun rest u => and_congr_right fun _ => ?_)
  rw [List.mapM_cons, List.mapM_nil, bind_apply, bind_apply]
  cases x a u <;> simp [bind_apply]

end

theorem discard_of_ok {x : Session σ α} {s t : σ} {a : α}
    (h : x s = .ok a t) : (discard x) s = .ok () t := by
  change EStateM.map _ x s = _
  rw [EStateM.map, h]

theorem discard_of_error {x : Session σ α} {s t : σ} {e : Failure}
    (h : x s = .error e t) : (discard x) s = .error e t := by
  change EStateM.map _ x s = _
  rw [EStateM.map, h]

theorem inner_of_ok {x : Session σ α} {s t : σ} {a : α} (h : x s = .ok a t) (r : ρ) :
    inner x (r, s) = .ok a (r, t) := by
  rw [inner, h]

theorem inner_of_error {x : Session σ α} {s t : σ} {e : Failure} (h : x s = .error e t) (r : ρ) :
    inner x (r, s) = .error e (r, t) := by
  rw [inner, h]

theorem inner_eq_ok {x : Session σ α} {r : ρ} {s : σ} {a : α} {t : ρ × σ} :
    inner x (r, s) = .ok a t ↔ ∃ u, x s = .ok a u ∧ t = (r, u) := by
  rw [inner]
  cases x s with
  | error e u => simp
  | ok b u =>
    constructor
    · intro h
      cases h
      exact ⟨u, rfl, rfl⟩
    · rintro ⟨u, h, rfl⟩
      cases h
      rfl

theorem inner_eq_error {x : Session σ α} {r : ρ} {s : σ} {e : Failure} {t : ρ × σ} :
    inner x (r, s) = .error e t ↔ ∃ u, x s = .error e u ∧ t = (r, u) := by
  rw [inner]
  cases x s with
  | ok a u => simp
  | error e' u =>
    constructor
    · intro h
      cases h
      exact ⟨u, rfl, rfl⟩
    · rintro ⟨u, h, rfl⟩
      cases h
      rfl

theorem FailsOnly.inner {P : Failure → Prop} {x : Session σ α} (h : FailsOnly P x) :
    FailsOnly P (inner (ρ := ρ) x) := by
  rintro ⟨r, s⟩ e t he
  obtain ⟨u, hx, -⟩ := inner_eq_error.mp he
  exact h s e u hx

theorem inner_ofExcept (x : Except Failure α) :
    inner (ρ := ρ) (ofExcept x : Session σ α) = ofExcept x := by
  cases x <;> rfl

theorem inner_bind (x : Session σ α) (f : α → Session σ β) :
    inner (ρ := ρ) (x >>= f) = inner x >>= fun a => inner (f a) := by
  funext (r, s)
  cases h : x s with
  | ok a t => rw [bind_of_ok (inner_of_ok h r), inner, inner, bind_of_ok h]
  | error e t => rw [bind_of_error (inner_of_error h r), inner_of_error (bind_of_error h f)]

theorem inner_foldlM (f : β → α → Session σ β) (b : β) (as : List α) :
    inner (ρ := ρ) (as.foldlM f b) = as.foldlM (fun b a => inner (f b a)) b := by
  induction as generalizing b with
  | nil => rfl
  | cons a as ih =>
    rw [List.foldlM_cons, List.foldlM_cons, inner_bind]
    congr 1
    funext b
    exact ih b

/-- The state that a run ends in, whether it succeeds or fails. -/
def after (x : Session σ α) (s : σ) : σ :=
  match x s with
  | .ok _ t => t
  | .error _ t => t

theorem after_of_ok {x : Session σ α} {s t : σ} {a : α} (h : x s = .ok a t) : after x s = t := by
  rw [after, h]

theorem after_of_error {x : Session σ α} {s t : σ} {e : Failure} (h : x s = .error e t) :
    after x s = t := by
  rw [after, h]

theorem after_discard (x : Session σ α) (s : σ) : after (discard x) s = after x s := by
  cases h : x s with
  | ok a t => rw [after_of_ok h, after_of_ok (discard_of_ok h)]
  | error e t => rw [after_of_error h, after_of_error (discard_of_error h)]

/-- What a run comes to, whatever state it ends in. -/
def outcome (x : Session σ α) (s : σ) : Except Failure α :=
  match x s with
  | .ok a _ => .ok a
  | .error e _ => .error e

theorem outcome_of_ok {x : Session σ α} {s t : σ} {a : α} (h : x s = .ok a t) :
    x.outcome s = .ok a := by
  rw [outcome, h]

theorem outcome_of_error {x : Session σ α} {s t : σ} {e : Failure} (h : x s = .error e t) :
    x.outcome s = .error e := by
  rw [outcome, h]

theorem outcome_eq_ok {x : Session σ α} {s : σ} {a : α} :
    x.outcome s = .ok a ↔ ∃ t, x s = .ok a t := by
  rw [outcome]
  cases x s <;> simp

theorem outcome_eq_error {x : Session σ α} {s : σ} {e : Failure} :
    x.outcome s = .error e ↔ ∃ t, x s = .error e t := by
  rw [outcome]
  cases x s <;> simp

/-- From every good state the computation comes to the value, and to a good state again. -/
def Yields (good : σ → Prop) (x : Session σ α) (a : α) : Prop :=
  ∀ s, good s → ∃ t, x s = .ok a t ∧ good t

variable {good : σ → Prop}

theorem yields_pure (a : α) : Yields good (pure a) a := fun s hs => ⟨s, rfl, hs⟩

theorem yields_ofExcept {x : Except Failure α} {a : α} (h : x = .ok a) :
    Yields good (ofExcept x) a := by
  rw [h]
  exact yields_pure a

theorem Yields.bind {x : Session σ α} {f : α → Session σ β} {a : α} {b : β} (hx : Yields good x a)
    (hf : Yields good (f a) b) : Yields good (x >>= f) b := by
  intro s hs
  obtain ⟨t, ht, hg⟩ := hx s hs
  rw [bind_of_ok ht]
  exact hf t hg

/-- From every good state the computation comes to the same value or failure, and to a good state
again. -/
def Settles (good : σ → Prop) (x : Session σ α) (r : Except Failure α) : Prop :=
  ∀ s, good s → x.outcome s = r ∧ good (x.after s)

theorem settles_ok_iff {x : Session σ α} {a : α} : Settles good x (.ok a) ↔ Yields good x a := by
  constructor
  · intro h s hs
    obtain ⟨hr, hg⟩ := h s hs
    cases hx : x s with
    | ok b t =>
      rw [outcome_of_ok hx] at hr
      cases hr
      rw [after_of_ok hx] at hg
      exact ⟨t, rfl, hg⟩
    | error e t =>
      rw [outcome_of_error hx] at hr
      cases hr
  · intro h s hs
    obtain ⟨t, ht, hg⟩ := h s hs
    rw [outcome_of_ok ht, after_of_ok ht]
    exact ⟨rfl, hg⟩

theorem settles_ofExcept (r : Except Failure α) : Settles good (ofExcept r) r := by
  intro s hs
  cases r with
  | ok a => exact ⟨rfl, hs⟩
  | error e => exact ⟨rfl, hs⟩

theorem Yields.bind_settles {x : Session σ α} {f : α → Session σ β} {a : α} {r : Except Failure β}
    (hx : Yields good x a) (hf : Settles good (f a) r) : Settles good (x >>= f) r := by
  intro s hs
  obtain ⟨t, ht, hg⟩ := hx s hs
  rw [outcome, after, bind_of_ok ht]
  exact hf t hg

theorem Settles.bind_error {x : Session σ α} {e : Failure} (hx : Settles good x (.error e))
    (f : α → Session σ β) : Settles good (x >>= f) (.error e) := by
  intro s hs
  obtain ⟨hr, hg⟩ := hx s hs
  cases hxs : x s with
  | ok b t =>
    rw [outcome_of_ok hxs] at hr
    cases hr
  | error e' t =>
    rw [outcome_of_error hxs] at hr
    cases hr
    rw [after_of_error hxs] at hg
    rw [outcome_of_error (bind_of_error hxs f), after_of_error (bind_of_error hxs f)]
    exact ⟨rfl, hg⟩

theorem Settles.bind {x : Session σ α} {f : α → Session σ β} {r : Except Failure α}
    {g : α → Except Failure β} (hx : Settles good x r)
    (hf : ∀ a, r = .ok a → Settles good (f a) (g a)) : Settles good (x >>= f) (r >>= g) := by
  cases r with
  | ok a => exact (settles_ok_iff.mp hx).bind_settles (hf a rfl)
  | error e => exact hx.bind_error f

end Revocation.Session
