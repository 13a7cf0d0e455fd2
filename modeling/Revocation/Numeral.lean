import Revocation.Binary64
import Revocation.Text.Quoted

/-!
Numbers written as text. Digits may be of any script, a single underscore may stand between two of
them, and blanks may surround the whole.
-/
namespace Revocation.Numeral

/-- The longest row of digits that is read; leading zeros count. -/
def limit : Nat := 4300

inductive Fault
  | malformed
  | tooLong (digits : Nat)
deriving DecidableEq

/-- The message on a text that is no whole number. -/
def Fault.message (written : String) : Fault → String
  | .malformed => "invalid literal for int() with base 10: " ++ Text.cut 200 (Text.quoted written)
  | .tooLong digits =>
    s!"Exceeds the limit ({limit} digits) for integer string conversion: " ++
      s!"value has {digits} digits; use sys.set_int_max_str_digits() to increase the limit"

/-- The digits up to the first character that is neither one nor an underscore between two;
nothing if there is no digit, or an underscore elsewhere. -/
def digitRun (afterDigit : Bool) : List Char → Option (List Nat × List Char)
  | [] => if afterDigit then some ([], []) else none
  | c :: cs =>
    match Text.digit? c with
    | some d => (digitRun true cs).map fun (ds, rest) => (d :: ds, rest)
    | none =>
      if !afterDigit then none
      else if c = '_' then digitRun false cs
      else some ([], c :: cs)

def value (ds : List Nat) : Nat := ds.foldl (fun n d => 10 * n + d) 0

/-- A sign in front, if there is one, and the rest. -/
def signed : List Char → Bool × List Char
  | '-' :: cs => (true, cs)
  | '+' :: cs => (false, cs)
  | cs => (false, cs)

def readInt (s : String) : Except Fault Int :=
  let (negative, cs) := signed (s.toList.dropWhile Text.isBlank)
  match digitRun false cs with
  | none => .error .malformed
  | some (ds, rest) =>
    if limit < ds.length then .error (.tooLong ds.length)
    else if rest.all Text.isBlank then .ok (if negative then -(value ds : Int) else value ds)
    else .error .malformed

/-- The characters with ASCII digits for those of other scripts. -/
def plain (cs : List Char) : List Char :=
  cs.map fun c => match Text.digit? c with
    | some d => Char.ofNat ('0'.toNat + d)
    | none => c

def isDigit (c : Char) : Bool := '0' ≤ c && c ≤ '9'

/-- Drops underscores; nothing if one stands elsewhere than between two digits. -/
def withoutUnderscores (before : Option Char) : List Char → Option (List Char)
  | [] => if before = some '_' then none else some []
  | c :: cs =>
    if c = '_' then
      if before.any isDigit then withoutUnderscores (some c) cs else none
    else if before = some '_' && !isDigit c then none
    else (withoutUnderscores (some c) cs).map (c :: ·)

def digitsOf (cs : List Char) : List Nat := cs.map fun c => c.toNat - '0'.toNat

/-- The exponent part: nothing, or a letter `e` with an optional sign and at least one digit. -/
def exponentPart : List Char → Option Int
  | [] => some 0
  | c :: cs =>
    if c.toLower = 'e' then
      let (negative, ds) := signed cs
      if ds.isEmpty || !ds.all isDigit then none
      else some (if negative then -(value (digitsOf ds) : Int) else value (digitsOf ds))
    else none

def readUnsigned (negative : Bool) (cs : List Char) : Option Binary64 :=
  let word := String.ofList (cs.map Char.toLower)
  if word = "inf" ∨ word = "infinity" then some (.infinity negative)
  else if word = "nan" then some (.nan negative)
  else
    let whole := cs.takeWhile isDigit
    let rest := cs.dropWhile isDigit
    let (fraction, rest) := match rest with
      | '.' :: rest => (rest.takeWhile isDigit, rest.dropWhile isDigit)
      | rest => ([], rest)
    if whole.isEmpty && fraction.isEmpty then none
    else (exponentPart rest).map fun e =>
      Binary64.ofDecimal negative (value (digitsOf (whole ++ fraction))) (e - fraction.length)

/-- A double written in decimal, or one of the words for infinity and for no number. -/
def readReal? (s : String) : Option Binary64 := do
  let cs := (s.toList.dropWhile Text.isBlank).reverse.dropWhile Text.isBlank |>.reverse
  let cs ← withoutUnderscores none (plain cs)
  let (negative, cs) := signed cs
  readUnsigned negative cs

end Revocation.Numeral
