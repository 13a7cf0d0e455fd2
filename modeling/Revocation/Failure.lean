import Revocation.FileStore
import Revocation.Http
import Revocation.Malformed

/-!
Everything that can go wrong with registries, witnesses and the material they are made of, as
causes, and the wording of each.
-/
namespace Revocation

/-- Deltas that do not fit together, or contradict the registry. -/
inductive Inconsistency
  | overlap (indices : List Int)
  | malformed (cause : Malformed)
  | emptyBetweenDistinct
  | wrongStart
  | broken (position : Nat)
  | wrongEnd
  | notAtHead
  | alreadyIssued (indices : List Int)
  | reissued (indices : List Int)
  | notIssued (indices : List Int)
  | alreadyAssigned (index : Int)
  | issuesOwn (index : Int)
deriving DecidableEq

/-- Accumulator values that the history does not connect. -/
inductive UnknownState
  | source
  | target
  | unconnected
  | remote (path : String)
deriving DecidableEq

/-- Tails entries that cannot be had. -/
inductive TailsFault
  | unavailable (index : Int)
  | unreadable (path : String) (fault : FileStore.Fault)
  | malformedFile (path : String) (cause : Malformed)
  | hashMismatch (path expected actual : String)
  | status (index : Int) (code : Nat)
  | network (index : Int) (text : String)
  | invalid (index : Int) (cause : Malformed)
deriving DecidableEq

/-- Indices for which there is no entry. -/
inductive NoTailsEntry
  | outOfRange (index : Int) (count : Nat)
  | unknownToServer (index : Int)
deriving DecidableEq

/-- Registry history that cannot be had. -/
inductive LedgerFault
  | status (path : String) (code : Nat)
  | network (path text : String)
  | invalidHead (cause : Malformed)
  | noDeltas
  | notJson (path : String)
  | notObject (path : String)
deriving DecidableEq

inductive MissingWitness
  | fields (names : List String)
  | malformed (cause : Malformed)
  | unbound
deriving DecidableEq

inductive UnexpectedWitness
  | fields (names : List String)
  | bound
deriving DecidableEq

inductive Failure
  | modulusTooSmall
  | capacityNotPositive
  | historyNotPositive
  | attemptsNotPositive
  | unknownIssuance (name : String)
  | nothingToUpdate
  | nothingToCompose
  | indexNotPositive (index : Int)
  | notInvertible
  | negativeElement
  | elementTooWide
  | hashesExhausted
  | malformed (cause : Malformed)
  | wait (fault : RetryPolicy.WaitFault)
  | transport (text : String)
  | address (fault : Http.Address.Fault)
  | noServer (url : String)
  | storage (fault : FileStore.Fault)
  | beyondCapacity (index capacity : Int)
  | registryFull (id : String) (capacity : Int)
  | inconsistent (cause : Inconsistency)
  | unknownState (cause : UnknownState)
  | revoked (index : Int) (registry : Option String)
  | tails (cause : TailsFault)
  | noTailsEntry (cause : NoTailsEntry)
  | ledger (cause : LedgerFault)
  | missingWitness (cause : MissingWitness)
  | unexpectedWitness (cause : UnexpectedWitness)
  | initialWitnessInvalid (index : Int)
  | updatedWitnessInvalid (index : Int)
deriving DecidableEq

/-- A computation over a state that fails for a cause, in the state it has come to. -/
abbrev Session (σ : Type) := EStateM Failure σ

/-- A failure, or the value, of a computation without state. -/
def Session.ofExcept {σ α : Type} : Except Failure α → Session σ α
  | .ok a => pure a
  | .error e => throw e

/-- Runs on the second part of a state. -/
def Session.inner {ρ σ α : Type} (run : Session σ α) : Session (ρ × σ) α := fun (r, s) =>
  match run s with
  | .ok a s => .ok a (r, s)
  | .error e s => .error e (r, s)

/-- Whether something is a fault of a record's form. An infinite number is none, and neither is a
document that goes too deep to be read. -/
def Malformed.isFormal : Malformed → Bool
  | .infinite => false
  | .unreadable (.tooDeep _) => false
  | _ => true

/-- What a record that cannot be read comes to: the given failure for a fault of its form, and the
fault itself for any other. -/
def Malformed.failure (as : Malformed → Failure) (m : Malformed) : Failure :=
  if m.isFormal then as m else .malformed m

/-- A record that cannot be read fails in the given way, if that is for its form. -/
def Malformed.reported {α : Type} (as : Malformed → Failure) :
    Except Malformed α → Except Failure α
  | .ok a => .ok a
  | .error m => .error (m.failure as)

def indicesText (indices : List Int) : String :=
  "[" ++ ", ".intercalate (indices.map toString) ++ "]"

def Inconsistency.message : Inconsistency → String
  | .overlap is => "Indices both issued and revoked in one delta: " ++ indicesText is
  | .malformed m => "Malformed registry delta: " ++ m.message
  | .emptyBetweenDistinct => "Empty delta chain between distinct states"
  | .wrongStart => "Delta chain does not start at the expected accumulator value"
  | .broken p => s!"Delta {p} does not chain to delta {p + 1}"
  | .wrongEnd => "Delta chain does not end at the expected accumulator value"
  | .notAtHead => "Delta does not start at the current accumulator value"
  | .alreadyIssued is => "Indices already issued: " ++ indicesText is
  | .reissued is => "Revoked indices cannot be reissued: " ++ indicesText is
  | .notIssued is => "Indices not issued: " ++ indicesText is
  | .alreadyAssigned i => s!"Index {i} already assigned"
  | .issuesOwn i => s!"Delta issues index {i}, which is already accumulated"

def UnknownState.message : UnknownState → String
  | .source => "Source accumulator value not found in retained history"
  | .target => "Target accumulator value not found in retained history"
  | .unconnected => "Target accumulator value does not follow the source value"
  | .remote path => s!"Ledger does not know the requested accumulator state ({path})"

def TailsFault.message : TailsFault → String
  | .unavailable i => s!"tails entry {i} unavailable"
  | .unreadable path f => s!"Cannot read tails file {path}: {f.message}"
  | .malformedFile path m => s!"Malformed tails file {path}: {m.message}"
  | .hashMismatch path expected actual =>
    s!"Tails file hash mismatch for {path}: expected {expected}, got {actual}"
  | .status i code => s!"HTTP error fetching tails entry {i}: {code}"
  | .network i text => s!"Network error fetching tails entry {i}: {text}"
  | .invalid i m => s!"Invalid tails entry {i}: {m.message}"

def NoTailsEntry.message : NoTailsEntry → String
  | .outOfRange i count => s!"Tails index {i} out of range [1, {count}]"
  | .unknownToServer i => s!"Tails server has no entry {i}"

def LedgerFault.message : LedgerFault → String
  | .status path code => s!"HTTP error fetching registry {path}: {code}"
  | .network path text => s!"Network error fetching registry {path}: {text}"
  | .invalidHead m => s!"Invalid registry head: {m.message}"
  | .noDeltas => "Ledger response has no deltas list"
  | .notJson path => s!"Invalid JSON from registry ledger ({path})"
  | .notObject path => s!"Unexpected registry response ({path})"

def MissingWitness.message : MissingWitness → String
  | .fields names => "Revocable credential is missing " ++ ", ".intercalate names
  | .malformed m => "Malformed revocation binding: " ++ m.message
  | .unbound => "Revocable credential has no witness binding"

def UnexpectedWitness.message : UnexpectedWitness → String
  | .fields names => "Non-revocable credential carries " ++ ", ".intercalate names
  | .bound => "Non-revocable credential carries a witness"

/-- An empty registry name is not mentioned. -/
def revokedMessage (index : Int) (registry : Option String) : String :=
  let place := match registry with
    | none => ""
    | some "" => ""
    | some id => s!" in registry {id}"
  s!"Credential revoked (index {index}{place})"

def Failure.message : Failure → String
  | .modulusTooSmall => "modulus must be an odd prime"
  | .capacityNotPositive => "max_cred_num must be positive"
  | .historyNotPositive => "max_history must be positive or None"
  | .attemptsNotPositive => "max_attempts must be at least 1"
  | .unknownIssuance name => s!"{Text.quoted name} is not a valid IssuanceType"
  | .nothingToUpdate => "Registry update without issued or revoked indices"
  | .nothingToCompose => "Cannot compose an empty delta chain"
  | .indexNotPositive i => s!"Revocation index must be positive, got {i}"
  | .notInvertible => "base is not invertible for the given modulus"
  | .negativeElement => "can't convert negative int to unsigned"
  | .elementTooWide => "int too big to convert"
  | .hashesExhausted => "int too big to convert"
  | .malformed m => m.message
  | .wait f => f.message
  | .transport text => text
  | .address f => f.message
  | .noServer url => s!"unknown url type: {Text.quoted url}"
  | .storage f => f.message
  | .beyondCapacity i c => s!"Revocation index {i} exceeds registry capacity {c}"
  | .registryFull id c => s!"Registry {id} is full ({c} credentials)"
  | .inconsistent c => c.message
  | .unknownState c => c.message
  | .revoked i id => revokedMessage i id
  | .tails c => c.message
  | .noTailsEntry c => c.message
  | .ledger c => c.message
  | .missingWitness c => c.message
  | .unexpectedWitness c => c.message
  | .initialWitnessInvalid i =>
    s!"Initial witness for index {i} does not verify against the registry accumulator"
  | .updatedWitnessInvalid i =>
    s!"Witness for index {i} does not verify against the target accumulator value"

end Revocation
