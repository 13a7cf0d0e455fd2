import Revocation.Record
import Revocation.Tails

/-!
A tails list kept in a file with the hash that fixes its contents. The file is read at the first
fetch; once it has been read and its hash agrees, it is not read again.
-/
namespace Revocation

structure TailsFile where
  path : Path
  /-- The hash that the contents must have; the one recorded in the file where none is given. -/
  expected : Option String
  loaded : Option (List Int)

namespace TailsFile

variable (m : Modulus) (h : Hashing)

def atPath (path : Path) (expected : Option String) : TailsFile := ⟨path, expected, none⟩

def document (id digest : String) (lines : List String) : Json :=
  .object [
    ("registry_id", .string id),
    ("max_cred_num", .int lines.length),
    ("tails_hash", .string digest),
    ("entries", .array (lines.map .string))]

/-- Writes the file and answers the hash of its contents. -/
def write (path : Path) (id : String) (entries : List Int) : Session FileStore String := do
  let digest ← Session.ofExcept (Tails.hash m h entries)
  let lines ← Session.ofExcept (entries.mapM m.encode)
  let text := Json.render true (document id digest lines)
  match (← get).write path (Bytes.ofText text) with
  | .ok store => set store; return digest
  | .error f => throw (.storage f)

/-- The entries that a document lists. -/
def entriesOf (v : Json) : Except Malformed (List Int) := do
  let vs ← Record.items (← Record.member v "entries")
  vs.mapM m.decodeValue

/-- The hash to check against: the one given, unless it is empty, or what the document records. -/
def expectation (file : TailsFile) (v : Json) : Json :=
  match file.expected with
  | none => Record.memberOrNull v "tails_hash"
  | some "" => Record.memberOrNull v "tails_hash"
  | some s => .string s

def agrees (digest : String) : Json → Bool
  | .string s => s == digest
  | _ => false

def read (file : TailsFile) (store : FileStore) : Except Failure Json :=
  match store.read file.path with
  | .error ⟨.nullByte, _⟩ => .error (.tails (.malformedFile file.path.text .badPath))
  | .error f => .error (.tails (.unreadable file.path.text f))
  | .ok bs =>
    match Json.parseFile bs with
    | .error f =>
      .error ((Malformed.unreadable f).failure fun c => .tails (.malformedFile file.path.text c))
    | .ok v => .ok v

def load (file : TailsFile) (store : FileStore) : Except Failure (List Int) := do
  let v ← file.read store
  let entries ← Malformed.reported (fun c => .tails (.malformedFile file.path.text c))
    (entriesOf m v)
  let digest ← Tails.hash m h entries
  let expected := file.expectation v
  if agrees digest expected then return entries
  else throw (.tails (.hashMismatch file.path.text (Json.display expected) digest))

/-- The entry at an index, from the file if it has not been read yet. -/
def fetch : TailsSource (TailsFile × FileStore) := fun index => do
  let (file, store) ← get
  match file.loaded with
  | some entries => TailsSource.ofList entries index
  | none =>
    let entries ← Session.ofExcept (file.load m h store)
    set (({ file with loaded := some entries } : TailsFile), store)
    TailsSource.ofList entries index

end TailsFile
end Revocation
