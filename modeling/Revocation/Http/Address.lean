import Revocation.Http.Host

/-!
Addresses. What is written is split into parts; each part has a normal form, in ASCII, and the
address that a request goes to is made of those.
-/
namespace Revocation.Http

structure Address where
  scheme : String
  user : String
  host : String
  portNumber : Option Int
  path : String
  query : Option String
  fragment : Option String
deriving DecidableEq

namespace Address

/-- The parts of an address as they are written. -/
structure Parts where
  scheme : List Char
  authority : List Char
  path : List Char
  query : Option (List Char)
  fragment : Option (List Char)

inductive Fault
  | tooLong
  | control (c : Char) (position : Nat)
  | partTooLong (part : String)
  | host (fault : Host.Fault) (written : String)
  | portNumber (written : String)
  | pathAfterHost
  | leadingSlashes
  | leadingColon
  | name (fault : Domain.Fault)
  /-- The characters outside ASCII in a row, and where they begin. -/
  | notAscii (first : Char) (count position : Nat)
deriving DecidableEq

/-- An escape with as many digits as the character needs. -/
def escape (c : Char) : String :=
  String.ofList <|
    if c.toNat < 0x100 then '\\' :: 'x' :: Text.hexDigits 2 c.toNat
    else if c.toNat < 0x10000 then '\\' :: 'u' :: Text.hexDigits 4 c.toNat
    else '\\' :: 'U' :: Text.hexDigits 8 c.toNat

def Fault.message : Fault → String
  | .tooLong => "URL too long"
  | .control c p =>
    s!"Invalid non-printable ASCII character in URL, {Text.quoted c.toString} at position {p}."
  | .partTooLong part => s!"URL component '{part}' too long"
  | .host .version4 written => s!"Invalid IPv4 address: {Text.quoted written}"
  | .host .version6 written => s!"Invalid IPv6 address: {Text.quoted written}"
  | .host .name written => s!"Invalid IDNA hostname: {Text.quoted written}"
  | .portNumber written => s!"Invalid port: {Text.quoted written}"
  | .pathAfterHost => "For absolute URLs, path must be empty or begin with '/'"
  | .leadingSlashes => "Relative URLs cannot have a path starting with '//'"
  | .leadingColon => "Relative URLs cannot have a path starting with ':'"
  | .name f => f.message
  | .notAscii c 1 p =>
    s!"'ascii' codec can't encode character '{escape c}' in position {p}: " ++
      "ordinal not in range(128)"
  | .notAscii _ n p =>
    s!"'ascii' codec can't encode characters in position {p}-{p + n - 1}: " ++
      "ordinal not in range(128)"

/-- What stands before the first mark, and after it if there is one. -/
def cut (mark : Char) (cs : List Char) : List Char × Option (List Char) :=
  (cs.takeWhile (· ≠ mark), (cs.dropWhile (· ≠ mark)).tail?)

def isSchemeSign (c : Char) : Bool := c.isAlphanum || c = '+' || c = '.' || c = '-'

/-- A scheme, a letter first or empty, ends with a colon. -/
def splitScheme (cs : List Char) : List Char × List Char :=
  match cs.takeWhile isSchemeSign, cs.dropWhile isSchemeSign with
  | [], ':' :: rest => ([], rest)
  | c :: name, ':' :: rest => if c.isAlpha then (c :: name, rest) else ([], cs)
  | _, _ => ([], cs)

/-- An authority stands after two slashes, up to the path. -/
def splitAuthority : List Char → List Char × List Char
  | '/' :: '/' :: rest => (rest.takeWhile (· ≠ '/'), rest.dropWhile (· ≠ '/'))
  | cs => ([], cs)

def Parts.ofText (cs : List Char) : Parts :=
  let (cs, fragment) := cut '#' cs
  let (cs, query) := cut '?' cs
  let (scheme, cs) := splitScheme cs
  let (authority, path) := splitAuthority cs
  ⟨scheme, authority, path, query, fragment⟩

/-- The last at sign ends the user. -/
def splitUser (cs : List Char) : List Char × List Char :=
  if cs.contains '@' then
    let back := cs.reverse
    (((back.dropWhile (· ≠ '@')).drop 1).reverse, (back.takeWhile (· ≠ '@')).reverse)
  else ([], cs)

/-- A host in brackets ends with the last one, any other with the first colon. -/
def splitHost (cs : List Char) : List Char × List Char :=
  if cs.head? = some '[' && cs.contains ']' then
    let back := cs.reverse
    ((back.dropWhile (· ≠ ']')).reverse, (back.takeWhile (· ≠ ']')).reverse)
  else (cs.takeWhile (· ≠ ':'), cs.dropWhile (· ≠ ':'))

def withoutColon : List Char → List Char
  | ':' :: cs => cs
  | cs => cs

def defaultPorts : List (String × Int) :=
  [("ftp", 21), ("http", 80), ("https", 443), ("ws", 80), ("wss", 443)]

/-- The number after the colon, if it is not the one that the scheme, as it is written, has without
saying. -/
def portNumberOf (scheme written : List Char) : Except Fault (Option Int) :=
  if written.isEmpty then .ok none
  else match Numeral.readInt (String.ofList written) with
    | .error _ => .error (.portNumber (String.ofList written))
    | .ok n =>
      .ok (if List.lookup (String.ofList scheme) defaultPorts = some n then none else some n)

def isVisible (c : Char) : Bool := 0x20 ≤ c.toNat && c.toNat < 0x7f

def keptInFragment (c : Char) : Bool := isVisible c && !" \"<>`".toList.contains c

def keptInQuery (c : Char) : Bool := isVisible c && !" \"#<>".toList.contains c

def keptInPath (c : Char) : Bool := keptInQuery c && !"?`\x7b\x7d".toList.contains c

def keptInUser (c : Char) : Bool := keptInPath c && !"/;=@[\\]^|".toList.contains c

def normal (kept : Char → Bool) (cs : List Char) : String :=
  String.ofList (Text.percentOutside kept cs)

/-- Follows the dots among the segments of a path: one dot stays where it is, two lead up, but not
above the root. `done` is read backwards. -/
def walk (done : List (List Char)) : List (List Char) → List (List Char)
  | [] => done.reverse
  | segment :: rest =>
    if segment = ['.'] then walk done rest
    else if segment = ['.', '.'] then walk (if done = [[]] then done else done.drop 1) rest
    else walk (segment :: done) rest

def withoutDots (path : List Char) : List Char :=
  ['/'].intercalate (walk [] (Text.fields (· = '/') path))

/-- What the path may begin with depends on what stands before it. -/
def checkPath (hasScheme hasAuthority : Bool) (path : List Char) : Except Fault Unit :=
  if hasAuthority then
    if path.isEmpty || path.head? = some '/' then .ok () else .error .pathAfterHost
  else if hasScheme then .ok ()
  else if path.take 2 = ['/', '/'] then .error .leadingSlashes
  else if path.head? = some ':' then .error .leadingColon
  else .ok ()

def ofParts (p : Parts) : Except Fault Address := do
  let (user, rest) := splitUser p.authority
  let (host, rest) := splitHost rest
  let normalHost ← match Host.normal host with
    | .ok h => pure h
    | .error f => throw (.host f (String.ofList host))
  let portNumber ← portNumberOf p.scheme (withoutColon rest)
  let hasScheme := !p.scheme.isEmpty
  let hasAuthority := !user.isEmpty || !normalHost.isEmpty || portNumber.isSome
  checkPath hasScheme hasAuthority p.path
  let path := if hasScheme || hasAuthority then withoutDots p.path else p.path
  return {
    scheme := String.ofList (p.scheme.map Char.toLower)
    user := normal keptInUser user
    host := String.ofList normalHost
    portNumber
    path := normal keptInPath path
    query := p.query.map (normal keptInQuery)
    fragment := p.fragment.map (normal keptInFragment) }

/-- The longest address, and the longest part of one. -/
def limit : Nat := 65536

def isControl (c : Char) : Bool := c.toNat < 0x20 || c.toNat = 0x7f

def ofText (s : String) : Except Fault Address :=
  let cs := s.toList
  if limit < cs.length then .error .tooLong
  else match cs.findIdx? isControl with
    | some i => .error (.control (cs.getD i ' ') i)
    | none => ofParts (Parts.ofText cs)

variable (a : Address)

/-- What stands between the user and the path. -/
def place : String :=
  (if a.host.toList.contains ':' then "[" ++ a.host ++ "]" else a.host) ++
    match a.portNumber with
    | some n => ":" ++ toString n
    | none => ""

def authority : String := (if a.user = "" then "" else a.user ++ "@") ++ a.place

def text : String :=
  (if a.scheme = "" then "" else a.scheme ++ ":") ++
    (if a.authority = "" then "" else "//" ++ a.authority) ++ a.path ++
    ((a.query.map ("?" ++ ·)).getD "") ++ (a.fragment.map ("#" ++ ·)).getD ""

def parts : Parts :=
  ⟨a.scheme.toList, a.authority.toList, a.path.toList, a.query.map String.toList,
    a.fragment.map String.toList⟩

/-- An address that is put together anew; no part may be too long. -/
def rebuilt (p : Parts) : Except Fault Address :=
  let all := [("scheme", p.scheme), ("authority", p.authority), ("path", p.path),
    ("query", p.query.getD []), ("fragment", p.fragment.getD [])]
  match all.find? fun (_, cs) => limit < cs.length with
  | some (name, _) => .error (.partTooLong name)
  | none => ofParts p

def isAbsolute : Bool := a.scheme ≠ "" && a.host ≠ ""

/-- An address without a scheme or a host is a path below the root, and its query. -/
def resolved : Except Fault Address :=
  if a.isAbsolute then .ok a
  else rebuilt ⟨[], [], '/' :: a.path.toList.dropWhile (· = '/'), a.query.map String.toList, none⟩

def withQuery (query : String) : Except Fault Address :=
  rebuilt { a.parts with query := some query.toList }

/-- A host that has been put into ASCII must be readable, and so must the place in ASCII. -/
def checkPlace : Except Fault Unit :=
  let encoded := Domain.encodedPrefix.isPrefixOf a.host.toList
  match if encoded then Domain.check a.host.toList else .ok () with
  | .error f => .error (.name f)
  | .ok () =>
    let place := a.place.toList
    match (place.dropWhile Text.Punycode.isAscii).takeWhile (!Text.Punycode.isAscii ·) with
    | [] => .ok ()
    | c :: cs =>
      if a.host = "" then .ok ()
      else .error (.notAscii c (cs.length + 1) (place.takeWhile Text.Punycode.isAscii).length)

/-- The address that a request for a written one goes to, with a query in place of its own. -/
def target (written : String) (query : Option String) : Except Fault Address := do
  let a ← (← ofText written).resolved
  let a ← match query with
    | some q => a.withQuery q
    | none => pure a
  a.checkPlace
  return a

end Address
end Revocation.Http
