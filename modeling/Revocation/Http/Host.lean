import Revocation.Http.Domain
import Revocation.Numeral
import Revocation.Text.Case
import Revocation.Text.Percent

/-!
Hosts, as they stand in addresses: names, and the numbers of either version of the protocol.
-/
namespace Revocation.Http.Host

/-- A number of one byte, without zeros in front. -/
def isByte (ds : List Char) : Bool :=
  !ds.isEmpty && ds.length ≤ 3 && ds.all Numeral.isDigit && (ds = ['0'] || ds.head? ≠ some '0') &&
    Numeral.value (Numeral.digitsOf ds) ≤ 255

/-- Four bytes with dots between them. -/
def isVersion4 (cs : List Char) : Bool :=
  let parts := Text.fields (· = '.') cs
  parts.length = 4 && parts.all isByte

/-- What looks like four numbers: digits with three characters between them, digits themselves
perhaps. A row of `n` digits has room for `(n - 1) / 2` of those. -/
def looksVersion4 (cs : List Char) : Bool :=
  let rows := (Text.fields (!Numeral.isDigit ·) cs).map List.length
  rows.length ≤ 4 && rows.all (0 < ·) && 4 ≤ rows.foldl (fun n row => n + 1 + (row - 1) / 2) 0

/-- At most four hexadecimal digits. -/
def isGroup (ds : List Char) : Bool :=
  !ds.isEmpty && ds.length ≤ 4 && ds.all fun c => (Hex.value? c).isSome

/-- How many groups stand in a row; four bytes at its end count for two, where they may stand. -/
def size? (bytes : Bool) : List (List Char) → Option Nat
  | [] => some 0
  | [last] =>
    if isGroup last then some 1 else if bytes && isVersion4 last then some 2 else none
  | group :: rest => if isGroup group then (size? bytes rest).map (· + 1) else none

def row (cs : List Char) : List (List Char) := if cs.isEmpty then [] else Text.fields (· = ':') cs

/-- What stands before and after the first two colons without a group between them. -/
def splitAtGap : List Char → Option (List Char × List Char)
  | ':' :: ':' :: cs => some ([], cs)
  | c :: cs => (splitAtGap cs).map fun (front, back) => (c :: front, back)
  | [] => none

/-- Eight groups, or fewer with a gap. -/
def areGroups (cs : List Char) : Bool :=
  match splitAtGap cs with
  | none => size? true (row cs) = some 8
  | some (front, back) =>
    match size? false (row front), size? true (row back) with
    | some m, some n => m + n < 8
    | _, _ => false

/-- Groups, and a zone after a percent sign. -/
def isVersion6 (cs : List Char) : Bool :=
  areGroups (cs.takeWhile (· ≠ '%')) &&
    match cs.dropWhile (· ≠ '%') with
    | [] => true
    | _ :: zone => !zone.isEmpty && !zone.contains '%'

inductive Fault
  | version4
  | version6
  | name
deriving DecidableEq

/-- Letters, digits and signs of a name in ASCII; others are put into percent notation. -/
def isKept (c : Char) : Bool := c.isAlphanum || "-._~!$&'()*+,;=\"`\x7b\x7d%|\\".toList.contains c

/-- The form of a host that is kept. The numbers of the later version lose their brackets. -/
def normal (cs : List Char) : Except Fault (List Char) :=
  if looksVersion4 cs then if isVersion4 cs then .ok cs else .error .version4
  else if cs.head? = some '[' && cs.getLast? = some ']' then
    let number := (cs.drop 1).dropLast
    if isVersion6 number then .ok number else .error .version6
  else
    let name := Text.lowered cs
    if cs.all Text.Punycode.isAscii then .ok (Text.percentOutside isKept name)
    else match Domain.ascii name with
      | .ok name => .ok name
      | .error _ => .error .name

end Revocation.Http.Host
