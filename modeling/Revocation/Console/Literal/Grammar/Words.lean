import Revocation.Console.Literal.Reader

/-!
The words of expressions, and the texts and numbers in them.
-/
namespace Revocation.Console.Literal.Grammar

open Reader

def keywords : List String := [
  "and", "as", "assert", "async", "await", "break", "class", "continue", "def", "del", "elif",
  "else", "except", "finally", "for", "from", "global", "if", "import", "in", "is", "lambda",
  "nonlocal", "not", "or", "pass", "raise", "return", "try", "while", "with", "yield"]

/-- Words that are values. -/
def truths : List String := ["None", "True", "False"]

def name : Reader String := do
  match ← next with
  | .name w => if keywords.contains w || truths.contains w then nothing else return w
  | _ => nothing

/-- Words that are names in some places only. -/
def softKeywords : List String := ["match", "case", "_"]

/-- Words that once began a statement. -/
def statements : List String := ["print", "exec"]

def operators : List String :=
  ["+", "-", "*", "/", "//", "%", "@", "&", "|", "^", "<<", ">>", "**"]

def comparisons : List String := ["==", "!=", "<=", "<", ">=", ">"]

def truth : Reader String := do
  match ← next with
  | .name w => if truths.contains w then return w else nothing
  | _ => nothing

/-- Whether a token has the form of a text. -/
def isText : Token → Bool
  | .text _ _ => true
  | .faulty (.tooManyDigits _) => false
  | .faulty _ => true
  | _ => false

/-- Texts in a row are one, all of bytes or none. -/
def joined (bytes : Option Bool) (formatted : Bool) : List Token → Except Fault Expression
  | [] => .ok (.of (if formatted then .formatted else .literal))
  | .text b f :: ts =>
    if bytes.any (· ≠ b) then .error .mixedTexts else joined (some b) (formatted || f) ts
  | .faulty f :: _ => .error f
  | _ :: ts => joined bytes formatted ts

def texts : Reader Expression := do
  match joined none false (← several (tokenThat isText)) with
  | .ok e => return e
  | .error f => fault f

def number : Reader Expression := do
  match ← next with
  | .number imaginary => return .number imaginary
  | .faulty (.tooManyDigits n) => fault (.tooManyDigits n)
  | _ => nothing

end Revocation.Console.Literal.Grammar
