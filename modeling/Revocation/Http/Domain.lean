import Revocation.Http.Domain.Label

/-!
Names of hosts in any script: labels with dots between them. What is sent is the form in ASCII.
-/
namespace Revocation.Http.Domain

/-- The full stops of East Asian scripts are dots too. -/
def isDot (c : Char) : Bool := c = '.' || c = '\u3002' || c = '\uff0e' || c = '\uff61'

/-- The labels of a name, and whether a dot stands at its end. -/
def labels (name : List Char) : Except Fault (List (List Char) × Bool) :=
  if limit < name.length then .error .tooLong
  else if name.isEmpty then .error .empty
  else
    let all := Text.fields isDot name
    if all.getLast? = some [] then .ok (all.dropLast, true) else .ok (all, false)

/-- A name's form in ASCII. -/
def ascii (name : List Char) : Except Fault (List Char) := do
  let (parts, ended) ← labels name
  let encoded ← parts.mapM asciiLabel
  let text := ['.'].intercalate (if ended then encoded ++ [[]] else encoded)
  if (if ended then limit else limit - 1) < text.length then throw .tooLong
  return text

/-- Checks a name in ASCII as it is read. -/
def check (name : List Char) : Except Fault Unit := do
  let (parts, _) ← labels name
  parts.forM checkAscii

end Revocation.Http.Domain
