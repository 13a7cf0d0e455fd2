import Revocation.Http.Domain.Characters
import Revocation.Text.Punycode
import Revocation.Text.Quoted

/-!
Labels, the parts of a host's name. A label in any script has a form in ASCII, which a prefix tells
from other labels.
-/
namespace Revocation.Http.Domain

/-- Why a name is none. Positions count from one. -/
inductive Fault
  | tooLong
  | labelTooLong
  | empty
  | emptyLabel
  | nothingEncoded
  | encodedHyphen
  | undecodable
  | notComposed
  | innerHyphens
  | outerHyphen
  | leadingMark
  | joiner (c : Char) (position : Nat) (label : String)
  | misplaced (c : Char) (position : Nat) (label : String)
  | character (c : Char) (position : Nat) (label : String)
  | firstDirection (label : String)
  | direction (toRight : Bool) (position : Nat)
  | mixedNumbers
  | lastDirection
deriving DecidableEq

def Fault.message : Fault → String
  | .tooLong => "Domain too long"
  | .labelTooLong => "Label too long"
  | .empty => "Empty domain"
  | .emptyLabel => "Empty Label"
  | .nothingEncoded => "Malformed A-label, no Punycode eligible content found"
  | .encodedHyphen => "A-label must not end with a hyphen"
  | .undecodable => "Invalid A-label"
  | .notComposed => "Label must be in Normalization Form C"
  | .innerHyphens => "Label has disallowed hyphens in 3rd and 4th position"
  | .outerHyphen => "Label must not start or end with a hyphen"
  | .leadingMark => "Label begins with an illegal combining character"
  | .joiner c p label =>
    s!"Unknown codepoint adjacent to joiner {Text.codePointName c} at position {p} in " ++
      Text.quoted label
  | .misplaced c p label =>
    s!"Codepoint {Text.codePointName c} not allowed at position {p} in {Text.quoted label}"
  | .character c p label =>
    s!"Codepoint {Text.codePointName c} at position {p} of {Text.quoted label} not allowed"
  | .firstDirection label =>
    s!"First codepoint in label {Text.quoted label} must be directionality L, R or AL"
  | .direction toRight p =>
    let side := if toRight then "left-to-right" else "right-to-left"
    s!"Invalid direction for codepoint at position {p} in a {side} label"
  | .mixedNumbers => "Can not mix numeral types in a right-to-left label"
  | .lastDirection => "Label ends with illegal codepoint directionality"

/-- The standing of each character; `before` are those before it, read backwards. -/
def checkCharacters (label : String) (before : List Char) : List Char → Except Fault Unit
  | [] => .ok ()
  | c :: cs =>
    let position := before.length + 1
    match standing before c cs with
    | .joiner false => .error (.joiner c position label)
    | .bound false => .error (.misplaced c position label)
    | .never => .error (.character c position label)
    | _ => checkCharacters label (c :: before) cs

open Text (Direction)

/-- A label that is written from right to left has no other letters, and numbers of one kind. -/
def checkToLeft (position : Nat) (number : Option Direction) : List Direction → Except Fault Unit
  | [] => .ok ()
  | d :: ds =>
    if d = .left then .error (.direction false position)
    else if d = .arabicNumber || d = .europeanNumber then
      if number.any (· ≠ d) then .error .mixedNumbers else checkToLeft (position + 1) (some d) ds
    else checkToLeft (position + 1) number ds

def checkToRight (position : Nat) : List Direction → Except Fault Unit
  | [] => .ok ()
  | d :: ds =>
    if d = .right || d = .arabicNumber then .error (.direction true position)
    else checkToRight (position + 1) ds

/-- The last direction that is not that of a mark. -/
def lastDirection? (ds : List Direction) : Option Direction :=
  ds.reverse.find? (· ≠ .mark)

/-- Directions matter only with a letter or a number that is written from right to left. -/
def checkDirections (label : String) (ds : List Direction) : Except Fault Unit :=
  if !ds.any fun d => d = .right || d = .arabicNumber then .ok ()
  else match ds.head? with
    | some .right => do
      checkToLeft 1 none ds
      if (lastDirection? ds).any (· ≠ .neutral) then .ok () else .error .lastDirection
    | some .left => do
      checkToRight 1 ds
      if (lastDirection? ds).any fun d => d = .left || d = .europeanNumber then .ok ()
      else .error .lastDirection
    | _ => .error (.firstDirection label)

/-- The longest name, with a dot at its end. -/
def limit : Nat := 254

/-- A label as it is read, in any script. -/
def checkLabel (cs : List Char) : Except Fault Unit := do
  let label := String.ofList cs
  if cs.isEmpty then throw .emptyLabel
  if limit < cs.length then throw .labelTooLong
  if !Text.isComposed cs then throw .notComposed
  if (cs.drop 2).take 2 = ['-', '-'] then throw .innerHyphens
  if cs.head? = some '-' || cs.getLast? = some '-' then throw .outerHyphen
  if cs.head?.any isMark then throw .leadingMark
  checkCharacters label [] cs
  checkDirections label (cs.map Direction.of)

def encodedPrefix : List Char := ['x', 'n', '-', '-']

/-- Checks a label of ASCII characters as it is read. -/
def checkAscii (cs : List Char) : Except Fault Unit :=
  let cs := cs.map Char.toLower
  if encodedPrefix.isPrefixOf cs then
    let encoded := cs.drop encodedPrefix.length
    if encoded.isEmpty then .error .nothingEncoded
    else if encoded.getLast? = some '-' then .error .encodedHyphen
    else match Text.Punycode.decode? encoded with
      | some cs => checkLabel cs
      | none => .error .undecodable
  else checkLabel cs

/-- The longest label in ASCII. -/
def labelLimit : Nat := 63

/-- A label's form in ASCII. -/
def asciiLabel (cs : List Char) : Except Fault (List Char) := do
  let encoded ←
    if cs.all Text.Punycode.isAscii then
      checkAscii cs
      pure cs
    else
      checkLabel cs
      pure (encodedPrefix ++ Text.Punycode.encode cs)
  if labelLimit < encoded.length then throw .labelTooLong
  return encoded

end Revocation.Http.Domain
