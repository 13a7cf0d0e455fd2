import Revocation.Bytes

/-!
The SHA-2 digests at both word widths. Initial words and round constants are the leading bits of
fractional parts of roots of the first primes, and are computed as such.
-/
namespace Revocation.Sha2

/-- The largest `r < 2 ^ bits` with `r ^ k ≤ n`. -/
def root (k n : Nat) : (bits : Nat) → Nat
  | 0 => 0
  | b + 1 => search (b + 1) 0
where
  search : Nat → Nat → Nat
    | 0, r => r
    | b + 1, r => search b (if Nat.pow (r + 1 <<< b) k ≤ n then r + 1 <<< b else r)

def isPrime (n : Nat) : Bool := 2 ≤ n && (List.range n).all fun d => d < 2 || n % d != 0

def primes (count : Nat) : List Nat := ((List.range 410).filter isPrime).take count

/-- The first `w` bits after the point of the `k`-th root of `n`. -/
def fraction (w k n : Nat) : BitVec w := BitVec.ofNat w (root k (n <<< (k * w)) (w + 8))

/-- What tells the members of the family apart: the number of rounds, and by how many places each
mixing function turns or shifts its word. -/
structure Variant (w : Nat) where
  rounds : Nat
  choice : Nat × Nat × Nat
  majority : Nat × Nat × Nat
  early : Nat × Nat × Nat
  late : Nat × Nat × Nat
  initial : List (BitVec w)
  constants : List (BitVec w)

def sha256 : Variant 32 where
  rounds := 64
  choice := (6, 11, 25)
  majority := (2, 13, 22)
  early := (7, 18, 3)
  late := (17, 19, 10)
  initial := (primes 8).map (fraction 32 2)
  constants := (primes 64).map (fraction 32 3)

def sha512 : Variant 64 where
  rounds := 80
  choice := (14, 18, 41)
  majority := (28, 34, 39)
  early := (1, 8, 7)
  late := (19, 61, 6)
  initial := (primes 8).map (fraction 64 2)
  constants := (primes 80).map (fraction 64 3)

variable {w : Nat}

def turned (r : Nat × Nat × Nat) (x : BitVec w) : BitVec w :=
  x.rotateRight r.1 ^^^ x.rotateRight r.2.1 ^^^ x.rotateRight r.2.2

def shifted (r : Nat × Nat × Nat) (x : BitVec w) : BitVec w :=
  x.rotateRight r.1 ^^^ x.rotateRight r.2.1 ^^^ x >>> r.2.2

/-- The message words of one block, each further one made of four earlier ones. -/
def schedule (v : Variant w) (block : Array (BitVec w)) : Array (BitVec w) :=
  (List.range (v.rounds - 16)).foldl
    (fun ws i =>
      ws.push (ws.getD i 0 + shifted v.early (ws.getD (i + 1) 0) + ws.getD (i + 9) 0 +
        shifted v.late (ws.getD (i + 14) 0)))
    block

/-- The eight working words. -/
structure Words (w : Nat) where
  (a b c d e f g h : BitVec w)

def Words.ofList (ws : List (BitVec w)) : Words w :=
  ⟨ws.getD 0 0, ws.getD 1 0, ws.getD 2 0, ws.getD 3 0,
    ws.getD 4 0, ws.getD 5 0, ws.getD 6 0, ws.getD 7 0⟩

def Words.toList (s : Words w) : List (BitVec w) := [s.a, s.b, s.c, s.d, s.e, s.f, s.g, s.h]

def Words.add (s t : Words w) : Words w :=
  ⟨s.a + t.a, s.b + t.b, s.c + t.c, s.d + t.d, s.e + t.e, s.f + t.f, s.g + t.g, s.h + t.h⟩

def round (v : Variant w) (s : Words w) (k x : BitVec w) : Words w :=
  let t := s.h + turned v.choice s.e + ((s.e &&& s.f) ^^^ (~~~s.e &&& s.g)) + k + x
  let u := turned v.majority s.a + ((s.a &&& s.b) ^^^ (s.a &&& s.c) ^^^ (s.b &&& s.c))
  ⟨t + u, s.a, s.b, s.c, s.d + t, s.e, s.f, s.g⟩

def compress (v : Variant w) (s : Words w) (block : Array (BitVec w)) : Words w :=
  s.add ((v.constants.zip (schedule v block).toList).foldl (fun s p => round v s p.1 p.2) s)

/-- The message, a one bit, zeros, and the message's length in bits, filling whole blocks of
`2 * w` bytes. -/
def pad (w : Nat) (message : Bytes) : Bytes :=
  let n := message.length
  let zeros := 2 * w - 1 - (n + w / 4) % (2 * w)
  message ++ 128 :: (List.replicate zeros 0 ++ Bytes.ofNat (w / 4) (8 * n))

/-- Pieces of `n + 1` members, the last one maybe shorter. -/
def pieces {α : Type} (n : Nat) (xs : List α) : List (List α) :=
  match xs with
  | [] => []
  | x :: xs => (x :: xs.take n) :: pieces n (xs.drop n)
termination_by xs.length
decreasing_by simp only [List.length_drop, List.length_cons]; omega

/-- The bytes as words, and those as blocks of sixteen. -/
def blocks (w : Nat) (bs : Bytes) : List (Array (BitVec w)) :=
  let words := (pieces (w / 8 - 1) bs).map fun c => BitVec.ofNat w (Bytes.toNat c)
  (pieces 15 words).map List.toArray

def digest (v : Variant w) (message : Bytes) : Bytes :=
  let last := (blocks w (pad w message)).foldl (compress v) (Words.ofList v.initial)
  last.toList.flatMap fun x => Bytes.ofNat (w / 8) x.toNat

end Revocation.Sha2
