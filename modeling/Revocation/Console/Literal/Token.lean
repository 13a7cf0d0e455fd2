import Revocation.Console.Literal.Fault
import Revocation.Text.Word

/-!
The tokens of a written value. Reading stops at the first fault. Most faults count wherever they
are; those that only what comes next would show count where everything before them is in order.
-/
namespace Revocation.Console.Literal

inductive Token
  | name (word : String)
  | number (imaginary : Bool)
  | text (bytes formatted : Bool)
  /-- What has the form of a number or a text, and a fault inside. -/
  | faulty (fault : Fault)
  | sign (word : String)
  | newline
deriving DecidableEq

/-- How the tokens end. -/
inductive Ending
  | whole
  /-- At a fault that counts wherever it is. -/
  | broken (fault : Fault)
  /-- At a fault that counts if it is reached. -/
  | pending (fault : Fault)
deriving DecidableEq

abbrev Scan := Except Fault (Nat × List Char)

/-- Further digits, an underscore before some of them; counts the characters. -/
def moreDigits (isDigit : Char → Bool) (bad : Option Char → Fault) (count : Nat) :
    List Char → Scan
  | '_' :: c :: cs =>
    if isDigit c then moreDigits isDigit bad (count + 2) cs else .error (bad (some c))
  | '_' :: [] => .error (bad none)
  | c :: cs => if isDigit c then moreDigits isDigit bad (count + 1) cs else .ok (count, c :: cs)
  | [] => .ok (count, [])

/-- Digits after the letter of their base, an underscore before the first perhaps. -/
def digitsAfterLetter (isDigit : Char → Bool) (bad : Option Char → Fault) : List Char → Scan
  | '_' :: cs => moreDigits isDigit bad 0 ('_' :: cs)
  | c :: cs => if isDigit c then moreDigits isDigit bad 1 cs else .error (bad (some c))
  | [] => .error (bad none)

def isNumberDigit : Base → Char → Bool
  | .binary, c => c = '0' || c = '1'
  | .octal, c => '0' ≤ c && c ≤ '7'
  | .hexadecimal, c => (Hex.value? c).isSome
  | _, c => Numeral.isDigit c

/-- A decimal digit that the base lacks is named. -/
def badDigit (base : Base) (c : Option Char) : Fault :=
  match base, c.filter Numeral.isDigit with
  | .binary, some d => .digit d base
  | .octal, some d => .digit d base
  | _, _ => .number base

def isAsciiPart (c : Char) : Bool := c.isAlphanum || c = '_'

/-- A word that may follow a number at once stands here. Two of its letters are enough for some. -/
def followsNumber (cs : List Char) : Bool :=
  [['i', 'f'], ['i', 'n'], ['i', 's']].contains (cs.take 2) ||
    ["and", "else", "for", "or", "not"].any fun word =>
      word.toList.isPrefixOf cs &&
        !(cs.drop word.length).head?.any fun c => 127 < c.toNat || isAsciiPart c

/-- After a number no other name may begin. -/
def checkEnd (base : Base) (cs : List Char) : Except Fault Unit :=
  if !cs.head?.any isAsciiPart || followsNumber cs then .ok () else .error (.number base)

/-- An exponent after a number, if there is one. -/
def exponent (count : Nat) : List Char → Scan
  | e :: cs =>
    if e = 'e' || e = 'E' then
      match cs with
      | c :: d :: rest =>
        if Numeral.isDigit c then
          moreDigits Numeral.isDigit (badDigit .decimal) (count + 2) (d :: rest)
        else if c = '+' || c = '-' then
          if Numeral.isDigit d then
            moreDigits Numeral.isDigit (badDigit .decimal) (count + 3) rest
          else .error (.number .decimal)
        else (checkEnd .decimal (e :: cs)).map fun _ => (count, e :: cs)
      | [c] => if Numeral.isDigit c then .ok (count + 2, []) else .error (.number .decimal)
      | [] => .error (.number .decimal)
    else .ok (count, e :: cs)
  | [] => .ok (count, [])

/-- A fraction after a number, if there is one. -/
def fraction (count : Nat) : List Char → Scan
  | '.' :: c :: cs =>
    if Numeral.isDigit c then
      moreDigits Numeral.isDigit (badDigit .decimal) (count + 2) cs
    else .ok (count + 1, c :: cs)
  | ['.'] => .ok (count + 1, [])
  | cs => .ok (count, cs)

/-- A decimal number: a token and how many characters it has. -/
def decimalNumber (cs : List Char) : Except Fault (Token × Nat) := do
  let (whole, rest) ← match cs with
    | '.' :: _ => pure (0, cs)
    | cs => moreDigits Numeral.isDigit (badDigit .decimal) 0 cs
  let (count, rest) ← fraction whole rest
  let (count, rest) ← exponent count rest
  match rest with
  | c :: after =>
    if c = 'j' || c = 'J' then
      checkEnd .imaginary after
      return (.number true, count + 1)
  | [] => pure ()
  let digits := (cs.take whole).filter (· ≠ '_')
  let isExponent := rest.head?.any fun c => c = 'e' || c = 'E'
  if count = whole && !isExponent && digits.head? = some '0' && digits.any (· ≠ '0') then
    throw .leadingZeros
  checkEnd .decimal rest
  if count = whole && Numeral.limit < digits.length then
    return (.faulty (.tooManyDigits digits.length), count)
  return (.number false, count)

def baseOf? (letter : Char) : Option Base :=
  match letter.toLower with
  | 'x' => some .hexadecimal
  | 'o' => some .octal
  | 'b' => some .binary
  | _ => none

def number (cs : List Char) : Except Fault (Token × Nat) :=
  match cs with
  | '0' :: letter :: rest =>
    match baseOf? letter with
    | none => decimalNumber cs
    | some base => do
      let (count, rest) ← digitsAfterLetter (isNumberDigit base) (badDigit base) rest
      if rest.head?.any Numeral.isDigit then throw (badDigit base rest.head?)
      checkEnd base rest
      return (.number false, count + 2)
  | cs => decimalNumber cs

/-- How many characters a text has up to its closing mark; three marks close a long one. -/
def textLength (mark : Char) (long : Bool) (count : Nat) : List Char → Except Fault Nat
  | [] => .error (.unterminated long)
  | '\\' :: _ :: cs => textLength mark long (count + 2) cs
  | c :: cs =>
    if c = mark && (!long || [mark, mark].isPrefixOf cs) then .ok count
    else if c = '\n' && !long then .error (.unterminated long)
    else textLength mark long (count + 1) cs

def widthOf? (mark : Char) : Option Nat :=
  match mark with
  | 'x' => some 2
  | 'u' => some 4
  | 'U' => some 8
  | _ => none

/-- Looks at the escapes of a text, from a position on. -/
def escapeFault? (bytes : Bool) (position : Nat) : List Char → Option Fault
  | '\\' :: mark :: cs =>
    match if bytes && mark ≠ 'x' then none else widthOf? mark with
    | none => escapeFault? bytes (position + 2) cs
    | some width =>
      let digits := (cs.take width).takeWhile fun c => (Hex.value? c).isSome
      if digits.length < width then
        some (if bytes then .byteEscape position
          else .escape mark position (position + 1 + digits.length))
      else if 0x10ffff < Text.codePoint digits then some (.beyondUnicode position (position + 9))
      else escapeFault? bytes (position + 2) cs
  | _ :: cs => escapeFault? bytes (position + 1) cs
  | [] => none

/-- A text by its letters in front and what stands between its marks. -/
def textToken (letters content : List Char) : Token :=
  let letters := letters.map Char.toLower
  let bytes := letters.contains 'b'
  if bytes && content.any (127 < ·.toNat) then .faulty .bytesNotAscii
  else match if letters.contains 'r' then none else escapeFault? bytes 0 content with
    | some f => .faulty f
    | none => .text bytes (letters.contains 'f')

/-- What may stand in front of a text, in any case. -/
def textLetters : List (List Char) :=
  ["", "b", "u", "r", "f", "br", "rb", "fr", "rf"].map String.toList

/-- A text that begins with its mark, and how many characters it has. -/
def text (letters : List Char) (mark : Char) (cs : List Char) : Except Fault (Token × Nat) := do
  let long := [mark, mark].isPrefixOf cs
  let content := if long then cs.drop 2 else cs
  let n ← textLength mark long 0 content
  return (textToken letters (content.take n), if long then n + 6 else n + 2)

def signs : List (List Char) := [
  "**=", "//=", ">>=", "<<=", "...", "!=", "%=", "&=", "**", "*=", "+=", "-=", "->", "//", "/=",
  ":=", "<<", "<=", "<>", "==", ">=", ">>", "@=", "^=", "|="].map String.toList

/-- The longest sign that stands here. -/
def sign (c : Char) (cs : List Char) : Token × Nat :=
  match signs.find? (·.isPrefixOf (c :: cs)) with
  | some s => (.sign (String.ofList s), s.length)
  | none => (.sign (String.ofList [c]), 1)

/-- A name, or a text with letters in front. -/
def word (cs : List Char) : Except Fault (Token × Nat) :=
  let isPart (c : Char) := 127 < c.toNat || isAsciiPart c
  let name := cs.takeWhile isPart
  match if textLetters.contains (name.map Char.toLower) then cs.dropWhile isPart else [] with
  | '\'' :: rest => (text name '\'' rest).map fun (t, n) => (t, n + name.length)
  | '"' :: rest => (text name '"' rest).map fun (t, n) => (t, n + name.length)
  | _ =>
    match name.find? fun c => 127 < c.toNat && !Text.isNamePart c with
    | some c => .error (.stray c)
    | none =>
      if name.head?.all fun c => c.toNat < 128 || Text.isNameStart c then
        .ok (.name (String.ofList name), name.length)
      else .error (.stray (name.headD ' '))

def isOpening (c : Char) : Bool := c = '(' || c = '\x7b'

def closingOf (c : Char) : Char := if c = '(' then ')' else '\x7d'

/-- How many brackets may be open. -/
def depthLimit : Nat := 200

/-- The brackets that are open after a character, innermost first. -/
def brackets (opened : List Char) (c : Char) : Except Fault (List Char) :=
  if isOpening c then if opened.length < depthLimit then .ok (c :: opened) else .error .tooDeep
  else if c = ')' || c = '\x7d' then
    match opened with
    | [] => .error (.unmatched c)
    | o :: rest => if closingOf o = c then .ok rest else .error (.mismatched c o)
  else .ok opened

/-- The token that begins with the character. -/
def token (c : Char) (cs : List Char) : Except Fault (Token × Nat) :=
  if Numeral.isDigit c || (c = '.' && cs.head?.any Numeral.isDigit) then number (c :: cs)
  else if c = '\'' || c = '"' then text [] c cs
  else if 127 < c.toNat || c.isAlpha || c = '_' then word (c :: cs)
  else if c.toNat < 32 || c.toNat = 127 then .error (.stray c)
  else .ok (sign c cs)

def atEnd (opened : List Char) : Ending :=
  match opened with
  | [] => .whole
  | c :: _ => .pending (.unclosed c)

/-- The tokens of a text; `begun` tells whether one stands on the line before. -/
def tokens (opened : List Char) (begun : Bool) (cs : List Char) : List Token × Ending :=
  match cs with
  | [] => ([], atEnd opened)
  | '\\' :: '\n' :: [] => ([], if opened.isEmpty then .pending .unexpectedEnd else atEnd opened)
  | '\\' :: '\n' :: rest => tokens opened begun rest
  | '\\' :: _ => ([], .pending .continuation)
  | c :: rest =>
    if c = ' ' || c = '\t' || c = '\x0c' then tokens opened begun rest
    else if c = '\n' then
      if begun && opened.isEmpty then
        let (ts, ending) := tokens opened false rest
        (.newline :: ts, ending)
      else tokens opened begun rest
    else if c = '#' then tokens opened begun (rest.drop (rest.takeWhile (· ≠ '\n')).length)
    else match brackets opened c, token c rest with
      | .error f, _ => ([], .broken f)
      | _, .error f => ([], .broken f)
      | .ok opened, .ok (t, n) =>
        let (ts, ending) := tokens opened true (rest.drop (n - 1))
        (t :: ts, ending)
termination_by cs.length
decreasing_by all_goals simp only [List.length_cons, List.length_drop]; omega

/-- One sign for the end of a line. -/
def lines : List Char → List Char
  | '\r' :: '\n' :: cs => '\n' :: lines cs
  | '\r' :: cs => '\n' :: lines cs
  | c :: cs => c :: lines cs
  | [] => []

def tokensOf (cs : List Char) : List Token × Ending :=
  if cs.contains '\x00' then ([], .broken .nullByte) else tokens [] false (lines cs)

end Revocation.Console.Literal
