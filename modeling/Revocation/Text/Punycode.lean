/-!
Text written with ASCII letters and digits. The ASCII characters come first; each other one follows
as a number that tells where it goes and which it is, counted on from the one before it in the order
of the characters, then of the places.
-/
namespace Revocation.Text.Punycode

/-- At a place, a digit below the threshold is the last one of its number. -/
def threshold (bias place : Nat) : Nat := min 26 (max 1 (36 * (place + 1) - bias))

theorem threshold_pos (bias place : Nat) : 0 < threshold bias place := by
  unfold threshold
  omega

def digit (n : Nat) : Char := Char.ofNat (if n < 26 then 'a'.toNat + n else '0'.toNat + (n - 26))

def value? (c : Char) : Option Nat :=
  if c.isLower then some (c.toNat - 'a'.toNat)
  else if c.isUpper then some (c.toNat - 'A'.toNat)
  else if c.isDigit then some (c.toNat - '0'.toNat + 26)
  else none

/-- The digits of a number from the given place on, the least one first. -/
def digits (bias place n : Nat) : List Char :=
  let t := threshold bias place
  if n < t then [digit n]
  else digit (t + (n - t) % (36 - t)) :: digits bias (place + 1) ((n - t) / (36 - t))
termination_by n
decreasing_by
  have := threshold_pos bias place
  have := Nat.div_le_self (n - threshold bias place) (36 - threshold bias place)
  omega

/-- Reads a number from the given place on, whose digits have the given weight. -/
def number? (bias place weight : Nat) : List Char → Option (Nat × List Char)
  | [] => none
  | c :: cs => do
    let d ← value? c
    let t := threshold bias place
    if d < t then return (d * weight, cs)
    let (n, rest) ← number? bias (place + 1) (weight * (36 - t)) cs
    return (d * weight + n, rest)

def settled (steps n : Nat) : Nat :=
  if 455 < n then settled (steps + 36) (n / 35) else steps + 36 * n / (n + 38)
termination_by n

/-- Where a number stands among those of one text. -/
structure State where
  bias : Nat
  /-- The first number counts for less than half of the later ones. -/
  damping : Nat
  /-- How many characters have been placed. -/
  count : Nat

def State.start (ascii : Nat) : State := ⟨72, 700, ascii⟩

/-- Short numbers make the next ones short. -/
def State.next (s : State) (n : Nat) : State :=
  let damped := n / s.damping
  ⟨settled 0 (damped + damped / (s.count + 1)), 2, s.count + 1⟩

/-- One round over the text, for the character `m`; `gap` counts the places since the last one that
was placed. -/
def round (m : Nat) (s : State) (gap : Nat) : List Char → List Char × State × Nat
  | [] => ([], s, gap)
  | c :: cs =>
    if c.toNat < m then round m s (gap + 1) cs
    else if c.toNat = m then
      let (out, last) := round m (s.next gap) 0 cs
      (digits s.bias 0 gap ++ out, last)
    else round m s gap cs

/-- The rounds for ascending characters, from `n` on. -/
def rounds (n : Nat) (s : State) (gap : Nat) (cs : List Char) : List Nat → List Char
  | [] => []
  | m :: ms =>
    let (out, s, gap) := round m s (gap + (m - n) * (s.count + 1)) cs
    out ++ rounds (m + 1) s (gap + 1) cs ms

def isAscii (c : Char) : Bool := c.toNat < 128

def encode (cs : List Char) : List Char :=
  let ascii := cs.filter isAscii
  let others := ((cs.filter (!isAscii ·)).map (·.toNat)).mergeSort.eraseReps
  ascii ++ (if ascii.isEmpty then [] else ['-']) ++ rounds 128 (.start ascii.length) 0 cs others

theorem length_of_number? {bias place weight : Nat} {cs rest : List Char} {n : Nat}
    (h : number? bias place weight cs = some (n, rest)) : rest.length < cs.length := by
  induction cs generalizing place weight n with
  | nil => simp [number?] at h
  | cons c cs ih =>
    simp only [number?, Option.bind_eq_bind, Option.bind_eq_some_iff] at h
    obtain ⟨d, -, h⟩ := h
    split at h
    · simp only [Option.pure_def, Option.some.injEq, Prod.mk.injEq] at h
      simp [h.2]
    · obtain ⟨⟨_, _⟩, hp, h⟩ := Option.bind_eq_some_iff.mp h
      simp only [Option.pure_def, Option.some.injEq, Prod.mk.injEq] at h
      obtain ⟨-, rfl⟩ := h
      exact Nat.lt_succ_of_lt (ih hp)

/-- Puts characters into the text; the next one is counted from the character `n` at a place. -/
def place? (n place : Nat) (s : State) (text : List Char) (cs : List Char) : Option (List Char) :=
  match cs with
  | [] => some text
  | c :: rest =>
    match h : number? s.bias 0 1 (c :: rest) with
    | none => none
    | some (gap, after) =>
      let n := n + (place + gap) / (s.count + 1)
      let place := (place + gap) % (s.count + 1)
      if n.isValidChar then
        place? n (place + 1) (s.next gap) (text.insertIdx place (Char.ofNat n)) after
      else none
termination_by cs.length
decreasing_by exact length_of_number? h

/-- The last hyphen ends the ASCII characters. -/
def decode? (cs : List Char) : Option (List Char) :=
  let back := cs.reverse
  let ascii := ((back.dropWhile (· ≠ '-')).drop 1).reverse
  place? 128 0 (.start ascii.length) ascii (back.takeWhile (· ≠ '-')).reverse

end Revocation.Text.Punycode
