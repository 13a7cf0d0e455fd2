import Revocation.Encoding
import Revocation.Json
import Revocation.Numeral

/-!
Reading JSON. Besides the standard's values the three words for doubles that have no decimal form
are read. A refusal names what was expected and where, as line, column and distance from the start.
Escapes can write lone surrogates, which no `String` holds: each is read as the replacement
character. Names of members that differ in nothing else are then one name.
-/
namespace Revocation.Json

inductive Complaint
  | value | name | colon | comma | extra | unterminated | escape | unicodeEscape | control | mark
deriving DecidableEq

/-- Why reading stopped; `rest` is the text from the faulty place on. -/
inductive Stop
  | unexpected (complaint : Complaint) (rest : List Char)
  | tooLong (digits : Nat)
  /-- An array or object stands too many levels deep. -/
  | tooDeep (shape : Shape)

abbrev Reading (α : Type) := Except Stop (α × List Char)

def isBlank (c : Char) : Bool := c = ' ' || c = '\t' || c = '\n' || c = '\r'

def skip (cs : List Char) : List Char := cs.dropWhile isBlank

/-- What a letter after a backslash stands for. -/
def escape? (c : Char) : Option Char :=
  List.lookup c [('"', '"'), ('\\', '\\'), ('/', '/'), ('b', '\x08'), ('f', '\x0c'), ('n', '\n'),
    ('r', '\r'), ('t', '\t')]

/-- The number that hexadecimal digits write. -/
def hexValue? (cs : List Char) : Option Nat :=
  cs.foldlM (fun n c => (Hex.value? c).map (16 * n + ·)) 0

/-- The code points and code units up to the closing quote. An escape by number must be followed by
one more character at least. -/
def units (start : List Char) : List Char → Reading (List Nat)
  | [] => .error (.unexpected .unterminated start)
  | c :: rest =>
    if c = '"' then .ok ([], rest)
    else if c = '\\' then
      match rest with
      | [] => .error (.unexpected .unterminated start)
      | 'u' :: h :: i :: j :: k :: l :: rest' =>
        match hexValue? [h, i, j, k] with
        | some u => (units start (l :: rest')).map fun (us, r) => (u :: us, r)
        | none => .error (.unexpected .unicodeEscape rest)
      | 'u' :: _ => .error (.unexpected .unicodeEscape rest)
      | d :: rest' =>
        match escape? d with
        | some e => (units start rest').map fun (us, r) => (e.toNat :: us, r)
        | none => .error (.unexpected .escape (c :: rest))
    else if c.toNat < 0x20 then .error (.unexpected .control (c :: rest))
    else (units start rest).map fun (us, r) => (c.toNat :: us, r)

/-- Pairs of surrogates become one character. -/
def joined : List Nat → List Char
  | u :: v :: rest =>
    if 0xd800 ≤ u ∧ u < 0xdc00 ∧ 0xdc00 ≤ v ∧ v < 0xe000 then
      Encoding.character (0x10000 + (u - 0xd800) * 0x400 + (v - 0xdc00)) :: joined rest
    else Encoding.character u :: joined (v :: rest)
  | [u] => [Encoding.character u]
  | [] => []

/-- The text after an opening quote; `start` begins at that quote. -/
def text (start rest : List Char) : Reading String :=
  (units start rest).map fun (us, r) => (String.ofList (joined us), r)

/-- A fraction, if a point with a digit after it comes next. -/
def fraction? : List Char → Option (List Char × List Char)
  | '.' :: rest =>
    let ds := rest.takeWhile Numeral.isDigit
    if ds.isEmpty then none else some (ds, rest.dropWhile Numeral.isDigit)
  | _ => none

/-- An exponent, if the letter, an optional sign and a digit come next. -/
def exponent? : List Char → Option (Int × List Char)
  | c :: rest =>
    if c = 'e' ∨ c = 'E' then
      let (negative, rest) := Numeral.signed rest
      let ds := rest.takeWhile Numeral.isDigit
      let n : Int := Numeral.value (Numeral.digitsOf ds)
      if ds.isEmpty then none
      else some (if negative then -n else n, rest.dropWhile Numeral.isDigit)
    else none
  | [] => none

/-- The digits before the point: a single zero, or a row that starts with another digit. -/
def wholePart : List Char → List Char × List Char
  | '0' :: rest => (['0'], rest)
  | cs => (cs.takeWhile Numeral.isDigit, cs.dropWhile Numeral.isDigit)

def number (start : List Char) : Reading Json :=
  let (negative, cs) := match start with
    | '-' :: cs => (true, cs)
    | cs => (false, cs)
  let (whole, rest) := wholePart cs
  if whole.isEmpty then .error (.unexpected .value start)
  else
    let fraction := fraction? rest
    let rest := (fraction.map (·.2)).getD rest
    let exponent := exponent? rest
    let rest := (exponent.map (·.2)).getD rest
    if fraction.isNone && exponent.isNone then
      if Numeral.limit < whole.length then .error (.tooLong whole.length)
      else
        let n : Int := Numeral.value (Numeral.digitsOf whole)
        .ok (.int (if negative then -n else n), rest)
    else
      let ds := (fraction.map (·.1)).getD []
      let e := (exponent.map (·.1)).getD 0
      let n := Numeral.value (Numeral.digitsOf (whole ++ ds))
      .ok (.real (Binary64.ofDecimal negative n (e - ds.length)), rest)

def words : List (List Char × Json) :=
  [("null".toList, .null), ("true".toList, .bool true), ("false".toList, .bool false),
    ("NaN".toList, .real (.nan false)), ("Infinity".toList, .real (.infinity false)),
    ("-Infinity".toList, .real (.infinity true))]

/-- A word or a number. -/
def scalar (cs : List Char) : Reading Json :=
  match words.find? fun (w, _) => w.isPrefixOf cs with
  | some (w, v) => .ok (v, cs.drop w.length)
  | none => number cs

/-- The items of an array up to its bracket, at most `fuel` of them. -/
def items (value : List Char → Reading Json) : (fuel : Nat) → List Char → Reading (List Json)
  | 0, cs => .error (.unexpected .value cs)
  | n + 1, cs =>
    match value cs with
    | .error e => .error e
    | .ok (v, rest) =>
      match skip rest with
      | ']' :: rest => .ok ([v], rest)
      | ',' :: rest => (items value n (skip rest)).map fun (vs, r) => (v :: vs, r)
      | rest => .error (.unexpected .comma rest)

/-- A quoted name, a colon and a value. -/
def member (value : List Char → Reading Json) (cs : List Char) : Reading (String × Json) :=
  match cs with
  | '"' :: rest =>
    match text cs rest with
    | .error e => .error e
    | .ok (name, rest) =>
      match skip rest with
      | ':' :: rest => (value (skip rest)).map fun (v, r) => ((name, v), r)
      | rest => .error (.unexpected .colon rest)
  | cs => .error (.unexpected .name cs)

/-- The members of an object up to its brace, at most `fuel` of them. -/
def members (value : List Char → Reading Json) : (fuel : Nat) → List Char → Reading Members
  | 0, cs => .error (.unexpected .name cs)
  | n + 1, cs =>
    match member value cs with
    | .error e => .error e
    | .ok (m, rest) =>
      match skip rest with
      | '}' :: rest => .ok ([m], rest)
      | ',' :: rest => (members value n (skip rest)).map fun (ms, r) => (m :: ms, r)
      | rest => .error (.unexpected .comma rest)

/-- A value that holds no others. -/
def leaf : List Char → Reading Json
  | [] => .error (.unexpected .value [])
  | '"' :: rest => (text ('"' :: rest) rest).map fun (s, r) => (.string s, r)
  | cs => scalar cs

/-- One value, whose arrays and objects stand at most so many levels deep. The fuel bounds the
members of each of them; the length of the text is always enough. -/
def value (fuel : Nat) : (levels : Nat) → List Char → Reading Json
  | 0, '[' :: _ => .error (.tooDeep .array)
  | 0, '{' :: _ => .error (.tooDeep .object)
  | n + 1, '[' :: rest =>
    match skip rest with
    | ']' :: rest => .ok (.array [], rest)
    | rest => (items (value fuel n) fuel rest).map fun (vs, r) => (.array vs, r)
  | n + 1, '{' :: rest =>
    match skip rest with
    | '}' :: rest => .ok (.object [], rest)
    | rest =>
      (members (value fuel n) fuel rest).map fun (ms, r) => (.object (Members.merge [] ms), r)
  | _, cs => leaf cs

/-- How many levels deep a document may go. -/
def levelLimit : Nat := 980

/-- A value with nothing but blanks around it. -/
def document (cs : List Char) : Except Stop Json :=
  match value (cs.length + 1) levelLimit (skip cs) with
  | .error e => .error e
  | .ok (v, rest) =>
    match skip rest with
    | [] => .ok v
    | rest => .error (.unexpected .extra rest)

inductive Fault
  | unexpected (complaint : Complaint) (line column position : Nat)
  | tooLong (digits : Nat)
  | tooDeep (shape : Shape)
  | undecodable (fault : Encoding.Fault)
deriving DecidableEq

/-- Lines and columns count from one, the position from zero. -/
def Fault.at (complaint : Complaint) (whole rest : List Char) : Fault :=
  let position := whole.length - rest.length
  let before := whole.take position
  .unexpected complaint (before.count '\n' + 1)
    ((before.reverse.takeWhile (· ≠ '\n')).length + 1) position

def located (whole : List Char) : Except Stop Json → Except Fault Json
  | .ok v => .ok v
  | .error (.unexpected c rest) => .error (Fault.at c whole rest)
  | .error (.tooLong n) => .error (.tooLong n)
  | .error (.tooDeep s) => .error (.tooDeep s)

/-- A text that starts with a byte order mark is no document. -/
def parseChars (cs : List Char) : Except Fault Json :=
  match cs with
  | '\ufeff' :: _ => .error (Fault.at .mark cs cs)
  | cs => located cs (document cs)

def parse (s : String) : Except Fault Json := parseChars s.toList

/-- The body of an answer, in whichever encoding it is. -/
def parseBody (bs : Bytes) : Except Fault Json :=
  match Encoding.detected bs with
  | .ok cs => located cs (document cs)
  | .error f => .error (.undecodable f)

/-- The contents of a file. -/
def parseFile (bs : Bytes) : Except Fault Json :=
  match Encoding.utf8 bs with
  | .ok cs => parseChars (Encoding.unifyLines cs)
  | .error f => .error (.undecodable f)

def Complaint.text : Complaint → String
  | .value => "Expecting value"
  | .name => "Expecting property name enclosed in double quotes"
  | .colon => "Expecting ':' delimiter"
  | .comma => "Expecting ',' delimiter"
  | .extra => "Extra data"
  | .unterminated => "Unterminated string starting at"
  | .escape => "Invalid \\escape"
  | .unicodeEscape => "Invalid \\uXXXX escape"
  | .control => "Invalid control character at"
  | .mark => "Unexpected UTF-8 BOM (decode using utf-8-sig)"

def Fault.message : Fault → String
  | .unexpected c line column position =>
    s!"{c.text}: line {line} column {column} (char {position})"
  | .tooLong digits => (Numeral.Fault.tooLong digits).message ""
  | .tooDeep .object =>
    "maximum recursion depth exceeded while decoding a JSON object from a unicode string"
  | .tooDeep _ =>
    "maximum recursion depth exceeded while decoding a JSON array from a unicode string"
  | .undecodable f => f.message

end Revocation.Json
