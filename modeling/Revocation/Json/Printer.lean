import Revocation.Binary64.Shortest
import Revocation.Json
import Revocation.Text.Quoted

/-!
Writing JSON, and the one-line form in which messages show a value.
-/
namespace Revocation.Json

open Text (hexDigits)

/-- A double in a document: positional between `0.0001` and `10 ^ 16`, with the words that reading
knows for those without a decimal form. -/
def numbers : Binary64.Layout := ⟨-3, 16, "NaN", "Infinity"⟩

/-- A double in a message. -/
def shownNumbers : Binary64.Layout := ⟨-3, 16, "nan", "inf"⟩

def unitEscape (n : Nat) : List Char := '\\' :: 'u' :: hexDigits 4 n

/-- Controls always need an escape; with `ascii` so does every character outside printable ASCII,
beyond the first 65536 as a pair of surrogates. -/
def escapeChar (ascii : Bool) (c : Char) : List Char :=
  if c = '"' || c = '\\' then ['\\', c]
  else if c = '\n' then ['\\', 'n']
  else if c = '\r' then ['\\', 'r']
  else if c = '\t' then ['\\', 't']
  else if c = '\x08' then ['\\', 'b']
  else if c = '\x0c' then ['\\', 'f']
  else if c.toNat < 0x20 then unitEscape c.toNat
  else if !ascii || c.toNat < 0x7f then [c]
  else if c.toNat < 0x10000 then unitEscape c.toNat
  else
    let n := c.toNat - 0x10000
    unitEscape (0xd800 + n / 0x400) ++ unitEscape (0xdc00 + n % 0x400)

def textLiteral (ascii : Bool) (s : String) : List Char :=
  '"' :: s.toList.flatMap (escapeChar ascii) ++ ['"']

def scalarText (ascii : Bool) : Json → List Char
  | .null => "null".toList
  | .bool b => (if b then "true" else "false").toList
  | .int n => (toString n).toList
  | .real x => (numbers.text x).toList
  | .string s => textLiteral ascii s
  | .array _ => "[]".toList
  | .object _ => "\x7b\x7d".toList

/-- The start of a line `depth` levels in. -/
def lineStart (depth : Nat) : List Char := '\n' :: List.replicate (2 * depth) ' '

mutual

/-- One item or member a line, two blanks a level; what is empty stays on its line. -/
def pretty (ascii : Bool) (depth : Nat) : Json → List Char
  | .array (v :: vs) =>
    '[' :: lineStart (depth + 1) ++ pretty ascii (depth + 1) v ++
      prettyItems ascii (depth + 1) vs ++ lineStart depth ++ [']']
  | .object ((n, v) :: ms) =>
    '\x7b' :: lineStart (depth + 1) ++ textLiteral ascii n ++ ':' :: ' ' ::
      pretty ascii (depth + 1) v ++ prettyMembers ascii (depth + 1) ms ++ lineStart depth ++
      ['\x7d']
  | v => scalarText ascii v

def prettyItems (ascii : Bool) (depth : Nat) : List Json → List Char
  | [] => []
  | v :: vs => ',' :: lineStart depth ++ pretty ascii depth v ++ prettyItems ascii depth vs

def prettyMembers (ascii : Bool) (depth : Nat) : Members → List Char
  | [] => []
  | (n, v) :: ms =>
    ',' :: lineStart depth ++ textLiteral ascii n ++ ':' :: ' ' :: pretty ascii depth v ++
      prettyMembers ascii depth ms

end

/-- A document over several lines, in ASCII or not. A lone surrogate that a document was read with
is put out as the replacement character that stands for it. -/
def render (ascii : Bool) (v : Json) : String := String.ofList (pretty ascii 0 v)

mutual

/-- A value as part of a message: texts quoted, words with a capital. -/
def shown : Json → String
  | .null => "None"
  | .bool b => if b then "True" else "False"
  | .int n => toString n
  | .real x => shownNumbers.text x
  | .string s => Text.quoted s
  | .array [] => "[]"
  | .array (v :: vs) => "[" ++ shown v ++ shownItems vs ++ "]"
  | .object [] => "\x7b\x7d"
  | .object ((n, v) :: ms) =>
    "\x7b" ++ Text.quoted n ++ ": " ++ shown v ++ shownMembers ms ++ "\x7d"

def shownItems : List Json → String
  | [] => ""
  | v :: vs => ", " ++ shown v ++ shownItems vs

def shownMembers : Members → String
  | [] => ""
  | (n, v) :: ms => ", " ++ Text.quoted n ++ ": " ++ shown v ++ shownMembers ms

end

/-- A value standing alone in a message: a text without quotes. -/
def display : Json → String
  | .string s => s
  | v => shown v

end Revocation.Json
