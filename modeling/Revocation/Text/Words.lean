import Revocation.Text.Decimal

/-!
White space and the words between it; text in fields.
-/
namespace Revocation.Text

/-- Blanks and the separators among the controls. -/
def isSpace (c : Char) : Bool := isBlank c || (0x1c ≤ c.toNat && c.toNat ≤ 0x1f)

/-- Without white space at either end. -/
def trimmed (cs : List Char) : List Char :=
  ((cs.dropWhile isSpace).reverse.dropWhile isSpace).reverse

/-- Splits at white space; `word` is what has been read of a word, latest first. -/
def splitWords (word : List Char) : List Char → List (List Char)
  | [] => if word.isEmpty then [] else [word.reverse]
  | c :: cs =>
    if isSpace c then
      if word.isEmpty then splitWords [] cs else word.reverse :: splitWords [] cs
    else splitWords (c :: word) cs

def words (cs : List Char) : List String := (splitWords [] cs).map String.ofList

/-- Splits at every mark. -/
def fields (isMark : Char → Bool) : List Char → List (List Char)
  | [] => [[]]
  | c :: cs =>
    if isMark c then [] :: fields isMark cs
    else match fields isMark cs with
      | [] => [[c]]
      | next :: rest => (c :: next) :: rest

end Revocation.Text
