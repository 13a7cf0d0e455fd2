import Revocation.Bytes
import Revocation.Text.Quoted

/-!
Files by path. There are the working directory and those above it, the root, the directories that
hold a file, and any that are listed besides.
-/
namespace Revocation

/-- A path in plain form: its parts without empty ones and single dots. A root of two slashes is not
that of one or of three. -/
structure Path where
  root : String
  parts : List String
deriving DecidableEq

namespace Path

def rootOf : List Char → String
  | '/' :: '/' :: '/' :: _ => "/"
  | '/' :: '/' :: _ => "//"
  | '/' :: _ => "/"
  | _ => ""

def ofString (s : String) : Path :=
  ⟨rootOf s.toList, (s.splitOn "/").filter fun p => p ≠ "" ∧ p ≠ "."⟩

/-- The plain form as text; the working directory itself is a single dot. -/
def text (p : Path) : String :=
  if p.root = "" ∧ p.parts = [] then "." else p.root ++ "/".intercalate p.parts

/-- The parts under which files are stored; the root is one of them. -/
def key (p : Path) : List String := if p.root = "" then p.parts else "/" :: p.parts

/-- The path to what is stored under a key. -/
def ofKey : List String → Path
  | "/" :: parts => ⟨"/", parts⟩
  | parts => ⟨"", parts⟩

end Path

structure FileStore where
  files : List (List String × Bytes)
  directories : List (List String)

namespace FileStore

inductive Reason
  | noEntry
  | isDirectory
  | notDirectory
  | nameTooLong
  | nullByte
deriving DecidableEq

structure Fault where
  reason : Reason
  path : String
deriving DecidableEq

inductive Node
  | file (key : List String)
  | directory
  | free (key : List String)

def empty : FileStore := ⟨[], []⟩

variable (store : FileStore)

def contents? (key : List String) : Option Bytes := List.lookup key store.files

def isDirectory (key : List String) : Bool :=
  store.directories.contains key ||
    store.files.any fun (k, _) => key.isPrefixOf k && key != k

/-- The directory above one. The root is above itself; from the working directory on, two dots lead
up. -/
def above (here : List String) : List String :=
  if here = ["/"] then here
  else if here.all (· = "..") then here ++ [".."]
  else here.dropLast

/-- How many bytes a part of a path may have. -/
def partLimit : Nat := 255

/-- How many bytes a path may have. -/
def pathLimit : Nat := 4095

/-- Follows the parts of a path from a directory. -/
def walk (here : List String) : List String → Except Reason Node
  | [] => .ok .directory
  | part :: rest =>
    if part = ".." then walk (above here) rest
    else if partLimit < part.utf8ByteSize then .error .nameTooLong
    else
      let there := here ++ [part]
      if (store.contents? there).isSome then
        if rest.isEmpty then .ok (.file there) else .error .notDirectory
      else if store.isDirectory there then walk there rest
      else if rest.isEmpty then .ok (.free there)
      else .error .noEntry

def locate (p : Path) : Except Reason Node :=
  if p.parts.any fun s => s.toList.contains '\x00' then .error .nullByte
  else if pathLimit < p.text.utf8ByteSize then .error .nameTooLong
  else store.walk (if p.root = "" then [] else ["/"]) p.parts

/-- Whether anything is at the path. A name that is too long cannot be asked for. -/
def pathExists (p : Path) : Except Fault Bool :=
  match store.locate p with
  | .ok (.file _) => .ok true
  | .ok .directory => .ok true
  | .error .nameTooLong => .error ⟨.nameTooLong, p.text⟩
  | _ => .ok false

def holdsDirectory (p : Path) : Bool :=
  match store.locate p with
  | .ok .directory => true
  | _ => false

def read (p : Path) : Except Fault Bytes :=
  match store.locate p with
  | .ok (.file key) => .ok ((store.contents? key).getD [])
  | .ok .directory => .error ⟨.isDirectory, p.text⟩
  | .ok (.free _) => .error ⟨.noEntry, p.text⟩
  | .error r => .error ⟨r, p.text⟩

def put (key : List String) (bs : Bytes) : FileStore :=
  { store with files := (key, bs) :: store.files.filter fun (k, _) => k ≠ key }

def write (p : Path) (bs : Bytes) : Except Fault FileStore :=
  match store.locate p with
  | .ok (.file key) => .ok (store.put key bs)
  | .ok (.free key) => .ok (store.put key bs)
  | .ok .directory => .error ⟨.isDirectory, p.text⟩
  | .error r => .error ⟨r, p.text⟩

/-- Takes a file away, if one is there. -/
def remove (p : Path) : FileStore :=
  match store.locate p with
  | .ok (.file key) => { store with files := store.files.filter fun (k, _) => k ≠ key }
  | _ => store

def Fault.message (f : Fault) : String :=
  match f.reason with
  | .noEntry => s!"[Errno 2] No such file or directory: {Text.quoted f.path}"
  | .isDirectory => s!"[Errno 21] Is a directory: {Text.quoted f.path}"
  | .notDirectory => s!"[Errno 20] Not a directory: {Text.quoted f.path}"
  | .nameTooLong => s!"[Errno 36] File name too long: {Text.quoted f.path}"
  | .nullByte => "embedded null byte"

end FileStore
end Revocation
