import Revocation.Hex

/-!
Text as bytes: UTF-8, and UTF-16 and UTF-32 in both byte orders. A failure tells the first bytes
that cannot be read and why. Main definitions: `utf8` for files, `detected` for bodies that do not
say how they are encoded.
-/
namespace Revocation.Encoding

inductive Form
  | utf8
  | utf16 (bigEndian : Bool)
  | utf32 (bigEndian : Bool)
deriving DecidableEq

inductive Reason
  | startByte
  | continuationByte
  | endOfData
  | truncated
  | codePoint
deriving DecidableEq

/-- `count` bytes from `position` on, the first of them `byte`, cannot be read. -/
structure Fault where
  form : Form
  position : Nat
  count : Nat
  byte : Nat
  reason : Reason
deriving DecidableEq

/-- A refusal before positions are known: how many bytes were left at the first bad one. -/
structure Refusal where
  left : Nat
  count : Nat
  reason : Reason

/-- A character under way: how many bytes it still needs, between which bounds the next of them
lies, its leading bits, and how many bytes have been seen. -/
structure Pending where
  needed : Nat
  low : Nat
  high : Nat
  value : Nat
  seen : Nat

/-- What a first byte asks for. The bounds keep out overlong forms, surrogates and values beyond the
last code point. -/
def Pending.start? (surrogates : Bool) (b : Nat) : Option Pending :=
  if b < 0xc2 then none
  else if b < 0xe0 then some ⟨1, 0x80, 0xbf, b - 0xc0, 1⟩
  else if b < 0xf0 then
    some ⟨2, if b = 0xe0 then 0xa0 else 0x80,
      if b = 0xed ∧ !surrogates then 0x9f else 0xbf, b - 0xe0, 1⟩
  else if b < 0xf5 then
    some ⟨3, if b = 0xf0 then 0x90 else 0x80, if b = 0xf4 then 0x8f else 0xbf, b - 0xf0, 1⟩
  else none

/-- The bytes seen are refused, `left` bytes before the end of them. The first half of a surrogate
that is not completed counts as no start at all. -/
def Pending.refusal (p : Pending) (left : Nat) (reason : Reason) : Refusal :=
  if p.needed = 1 ∧ p.seen = 2 ∧ 0x360 ≤ p.value ∧ p.value < 0x380 then
    ⟨left + p.seen, 1, .continuationByte⟩
  else ⟨left + p.seen, p.seen, reason⟩

/-- The character of a code point. A lone surrogate is no character and becomes the replacement
character, so texts that differ only in lone surrogates are the same text here. -/
def character (n : Nat) : Char := if n.isValidChar then Char.ofNat n else Char.ofNat 0xfffd

def scan (surrogates : Bool) : Option Pending → Bytes → Except Refusal (List Char)
  | none, [] => .ok []
  | some p, [] => .error (p.refusal 0 .endOfData)
  | none, b :: rest =>
    if b < 0x80 then (scan surrogates none rest).map (Char.ofNat b.toNat :: ·)
    else match Pending.start? surrogates b.toNat with
      | none => .error ⟨rest.length + 1, 1, .startByte⟩
      | some p => scan surrogates (some p) rest
  | some p, b :: rest =>
    if p.low ≤ b.toNat ∧ b.toNat ≤ p.high then
      let value := 64 * p.value + (b.toNat - 0x80)
      if p.needed ≤ 1 then (scan surrogates none rest).map (character value :: ·)
      else scan surrogates (some ⟨p.needed - 1, 0x80, 0xbf, value, p.seen + 1⟩) rest
    else .error (p.refusal (rest.length + 1) .continuationByte)

def unit (bigEndian : Bool) (bs : Bytes) : Nat := Bytes.toNat (if bigEndian then bs else bs.reverse)

def scan16 (bigEndian : Bool) : Bytes → Except Refusal (List Char)
  | [] => .ok []
  | [_] => .error ⟨1, 1, .truncated⟩
  | a :: b :: rest =>
    let u := unit bigEndian [a, b]
    match rest with
    | c :: d :: rest' =>
      let v := unit bigEndian [c, d]
      if 0xd800 ≤ u ∧ u < 0xdc00 ∧ 0xdc00 ≤ v ∧ v < 0xe000 then
        (scan16 bigEndian rest').map
          (character (0x10000 + (u - 0xd800) * 0x400 + (v - 0xdc00)) :: ·)
      else (scan16 bigEndian (c :: d :: rest')).map (character u :: ·)
    | rest => (scan16 bigEndian rest).map (character u :: ·)

def scan32 (bigEndian : Bool) : Bytes → Except Refusal (List Char)
  | [] => .ok []
  | a :: b :: c :: d :: rest =>
    let u := unit bigEndian [a, b, c, d]
    if 0x110000 ≤ u then .error ⟨rest.length + 4, 4, .codePoint⟩
    else (scan32 bigEndian rest).map (character u :: ·)
  | short => .error ⟨short.length, short.length, .truncated⟩

def located (form : Form) (bs : Bytes) :
    Except Refusal (List Char) → Except Fault (List Char)
  | .ok cs => .ok cs
  | .error r =>
    let position := bs.length - r.left
    .error ⟨form, position, r.count, (bs.getD position 0).toNat, r.reason⟩

/-- Strict UTF-8. -/
def utf8 (bs : Bytes) : Except Fault (List Char) := located .utf8 bs (scan false none bs)

/-- Byte order marks; the longer ones are looked for first. -/
def marks : List (Bytes × Form) :=
  [([0x00, 0x00, 0xfe, 0xff], .utf32 true), ([0xff, 0xfe, 0x00, 0x00], .utf32 false),
    ([0xfe, 0xff], .utf16 true), ([0xff, 0xfe], .utf16 false), ([0xef, 0xbb, 0xbf], .utf8)]

/-- The encoding of a body without a mark, told by where its first zero bytes stand. -/
def unmarked : Bytes → Form
  | a :: b :: c :: d :: _ =>
    if a = 0 then (if b = 0 then .utf32 true else .utf16 true)
    else if b = 0 then (if c = 0 ∧ d = 0 then .utf32 false else .utf16 false)
    else .utf8
  | [a, b] => if a = 0 then .utf16 true else if b = 0 then .utf16 false else .utf8
  | _ => .utf8

/-- The encoding of a body, and how many bytes its mark takes. -/
def formOf (bs : Bytes) : Form × Nat :=
  match marks.find? fun (mark, _) => mark.isPrefixOf bs with
  | some (mark, form) => (form, mark.length)
  | none => (unmarked bs, 0)

/-- A body of unknown encoding. After a UTF-8 mark positions start over. -/
def detected (bs : Bytes) : Except Fault (List Char) :=
  let (form, mark) := formOf bs
  let body := bs.drop mark
  match form with
  | .utf8 => located form body (scan true none body)
  | .utf16 big => located form bs (scan16 big body)
  | .utf32 big => located form bs (scan32 big body)

def Form.name : Form → String
  | .utf8 => "utf-8"
  | .utf16 false => "utf-16-le"
  | .utf16 true => "utf-16-be"
  | .utf32 false => "utf-32-le"
  | .utf32 true => "utf-32-be"

def Reason.text : Reason → String
  | .startByte => "invalid start byte"
  | .continuationByte => "invalid continuation byte"
  | .endOfData => "unexpected end of data"
  | .truncated => "truncated data"
  | .codePoint => "code point not in range(0x110000)"

def Fault.message (f : Fault) : String :=
  let place := if f.count = 1 then
      s!"byte 0x{Hex.encode [UInt8.ofNat f.byte]} in position {f.position}"
    else s!"bytes in position {f.position}-{f.position + f.count - 1}"
  s!"'{f.form.name}' codec can't decode {place}: {f.reason.text}"

/-- Every way to end a line becomes the newline character. -/
def unifyLines : List Char → List Char
  | '\r' :: '\n' :: cs => '\n' :: unifyLines cs
  | '\r' :: cs => '\n' :: unifyLines cs
  | c :: cs => c :: unifyLines cs
  | [] => []

end Revocation.Encoding
