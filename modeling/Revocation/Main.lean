import Revocation.CommandLine

/-!
The program. It takes in the files that the command may touch, runs the command, prints, and writes
the files that have changed. No server can be reached from here, so every request fails to connect.
-/
namespace Revocation.CommandLine

def noServer : Http.Server Unit := fun _ s => (.failure .connect "No network access", s)

/-- Takes in what has opened under a key: a file with its bytes, or a directory, which opens but
cannot be read. -/
def takeOpened (store : FileStore) (key : List String) (h : IO.FS.Handle) : IO FileStore := do
  try
    return store.put key (← h.readBinToEnd).toList
  catch _ => return { store with directories := key :: store.directories }

/-- Takes in what is under a key, which may be nothing. -/
def takeIn (store : FileStore) (key : List String) : IO FileStore := do
  try
    takeOpened store key (← IO.FS.Handle.mk (Path.ofKey key).text .read)
  catch _ => return store

/-- Takes in all that a path leads through, from where it starts to where it ends. -/
def survey (store : FileStore) (path : String) : IO FileStore :=
  let p := Path.ofString path
  let start := (Path.mk p.root []).key
  let next here part := if part = ".." then FileStore.above here else here ++ [part]
  (p.parts.scanl next start).foldlM takeIn store

/-- Runs the command that the arguments ask for; its status is the answer. -/
def perform (args : List String) : IO UInt32 := do
  let paths := ((Command.ofArguments FileStore.empty args).toOption.map Command.paths).getD []
  let before ← paths.foldlM survey FileStore.empty
  let input ← if paths.contains "-" then (← IO.getStdin).readBinToEnd else pure ByteArray.empty
  let (ending, after) := run noServer input.toList args ⟨before, Http.Traffic.start .system ()⟩
  for (key, bytes) in after.files.files do
    if before.contents? key ≠ some bytes then
      IO.FS.writeBinFile (Path.ofKey key).text ⟨bytes.toArray⟩
  IO.print ending.output
  return UInt32.ofNat ending.status

end Revocation.CommandLine

def main (args : List String) : IO UInt32 := Revocation.CommandLine.perform args
