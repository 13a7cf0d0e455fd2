import Revocation.Console.Emoji
import Revocation.Console.Literal
import Revocation.Console.Style
import Revocation.Text.Width

/-!
Marked-up text for a terminal without colours. Tags in square brackets open and close styles and
leave no trace; a backslash keeps a tag as text. A tag that closes what is not open cannot be
shown, and neither can a style with a number that is none. Tags that begin with an at sign name
actions, whose arguments must be values.
-/
namespace Revocation.Console

inductive MarkupFault
  | nothingToClose (position : Nat)
  | notOpen (tag : String) (position : Nat)
  | number (bad : BadNumber)
  /-- The arguments of an action, as they are read and as they are written. -/
  | arguments (read written : String) (fault : Literal.Fault)
deriving DecidableEq

def MarkupFault.message : MarkupFault → String
  | .nothingToClose p => s!"closing tag '[/]' at position {p} has nothing to close"
  | .notOpen tag p => s!"closing tag '[{tag}]' at position {p} doesn't match any open tag"
  | .number bad => bad.message
  | .arguments read written f =>
    if f.isGrammar then
      s!"error parsing {Text.quoted read} in {Text.quoted written}; {f.message}"
    else s!"error parsing {Text.quoted written}; {f.message}"

inductive Piece
  | plain (text : List Char)
  | tag (position : Nat) (content : List Char)

def startsTag (c : Char) : Bool := ('a' ≤ c && c ≤ 'z') || c = '#' || c = '/' || c = '@'

def isBracket (c : Char) : Bool := c = '[' || c = ']'

/-- The content of a tag that begins here, and what follows the tag. -/
def tagAt? : List Char → Option (List Char × List Char)
  | '[' :: c :: cs =>
    if startsTag c then
      match cs.dropWhile (!isBracket ·) with
      | ']' :: rest => some (c :: cs.takeWhile (!isBracket ·), rest)
      | _ => none
    else none
  | _ => none

theorem length_of_tagAt? {cs content rest : List Char} (h : tagAt? cs = some (content, rest)) :
    rest.length < cs.length := by
  unfold tagAt? at h
  split at h
  · split at h
    · split at h
      · rename_i c cs _ _ rest' hd
        have := (List.dropWhile_sublist (!isBracket ·) (l := cs)).length_le
        simp_all
        omega
      · cases h
    · cases h
  · cases h

def isBackslash (c : Char) : Bool := c = '\\'

/-- The pieces of a tag after `n` backslashes: each pair of them is one, an odd one makes text of
the tag. -/
def escapedTag (position n : Nat) (content : List Char) : List Piece :=
  (if n < 2 then [] else [.plain (List.replicate (n / 2) '\\')]) ++
    [if n % 2 = 1 then .plain ('[' :: content ++ [']']) else .tag (position + n / 2 * 2) content]

/-- The text before a piece, read backwards. -/
def flushed (before : List Char) : List Piece :=
  if before.isEmpty then [] else [.plain before.reverse]

/-- Splits marked-up text from the given position on; `before` is the text since the last tag,
latest first. -/
def pieces (position : Nat) (before : List Char) (cs : List Char) : List Piece :=
  match cs with
  | [] => flushed before
  | c :: rest =>
    let n := ((c :: rest).takeWhile isBackslash).length
    match h : tagAt? ((c :: rest).dropWhile isBackslash) with
    | some (content, after) =>
      flushed before ++ escapedTag position n content ++
        pieces (position + n + content.length + 2) [] after
    | none => pieces (position + 1) (c :: before) rest
termination_by cs.length
decreasing_by
  · have h1 := length_of_tagAt? h
    have h2 := (List.dropWhile_sublist isBackslash (l := c :: rest)).length_le
    omega
  · simp

/-- Brackets lose the backslash before them. -/
def unescaped : List Char → List Char
  | '\\' :: '[' :: cs => '[' :: unescaped cs
  | c :: cs => c :: unescaped cs
  | [] => []

/-- Controls that move the cursor are not shown. -/
def isShown (c : Char) : Bool := !([7, 8, 11, 12, 13].contains c.toNat)

def plainText (cs : List Char) : List Char := (withEmoji (unescaped cs)).filter isShown

/-- An open tag: its name in normal form, and what follows an equals sign. -/
structure Tag where
  name : String
  parameters : List Char

def Tag.isAction (t : Tag) : Bool := t.name.startsWith "@"

/-- What is read of the parameters of an action: the arguments in round brackets after a name, or
an empty list of them after a name alone; anything else as it is. -/
def argumentsOf (parameters : List Char) : List Char :=
  match Literal.called? (Text.trimmed parameters) with
  | some arguments => arguments
  | none => Text.trimmed parameters

/-- The arguments of an action are looked at when it is closed. -/
def Tag.closed (t : Tag) : Except MarkupFault Unit :=
  if !t.isAction || t.parameters.isEmpty then .ok ()
  else
    let read := argumentsOf t.parameters
    match Literal.check read with
    | .ok () => .ok ()
    | .error f => .error (.arguments (String.ofList read) (String.ofList t.parameters) f)

/-- The name of the style of a tag, with its parameters as further words. -/
def Tag.style (t : Tag) : List Char :=
  if t.isAction then [] else t.name.toList ++ ' ' :: t.parameters

def ofNumber {α : Type} : Except BadNumber α → Except MarkupFault α
  | .ok a => .ok a
  | .error bad => .error (.number bad)

/-- A tag that has been opened where so much of the text was before it. -/
structure OpenTag extends Tag where
  start : Nat

/-- A part of a text, from the character with the number `start` to the one before `stop`, and the
name of the style that is asked for it. -/
structure Span where
  start : Nat
  stop : Nat
  style : List Char

def OpenTag.span (stop : Nat) (t : OpenTag) : Span := ⟨t.start, stop, t.style⟩

/-- Takes the innermost open tag with the name from the list. -/
def close? (name : String) : List OpenTag → Option (OpenTag × List OpenTag)
  | [] => none
  | t :: opened =>
    if t.name = name then some (t, opened)
    else (close? name opened).map fun (found, opened) => (found, t :: opened)

/-- The tag that a tag closes, if it is one that closes, and the tags that are open after it,
innermost first; `before` counts the characters before it that are shown. -/
def afterTag (before position : Nat) (content : List Char) (opened : List OpenTag) :
    Except MarkupFault (Option OpenTag × List OpenTag) :=
  let (name, parameters) := Text.splitAtMark '=' content
  match name with
  | '/' :: name =>
    match Text.trimmed name with
    | [] =>
      match opened with
      | [] => .error (.nothingToClose position)
      | t :: opened => do t.closed; return (some t, opened)
    | name => do
      match close? (← ofNumber (Style.normalize name)) opened with
      | some (t, opened) => do t.closed; return (some t, opened)
      | none => .error (.notOpen (String.ofList content) position)
  | name => do return (none, ⟨⟨← ofNumber (Style.normalize name), parameters⟩, before⟩ :: opened)

/-- The parts of a text that its tags ask for a style for, those of tags that stay open last. -/
def spans (before : Nat) (opened : List OpenTag) : List Piece → Except MarkupFault (List Span)
  | [] => .ok (opened.map (OpenTag.span before))
  | .plain cs :: rest => spans (before + cs.length) opened rest
  | .tag p content :: rest => do
    let (closed, opened) ← afterTag before p content opened
    return (closed.map (OpenTag.span before)).toList ++ (← spans before opened rest)

/-- The text between one tag and the next. -/
def stretches : List Piece → List (List Char)
  | [] => [[]]
  | .tag _ _ :: rest => [] :: stretches rest
  | .plain cs :: rest =>
    match stretches rest with
    | [] => [cs]
    | next :: more => (cs ++ next) :: more

/-- Whether a text is taken apart before it is shown. -/
def isTakenApart (text : List Char) : Bool := text.any fun c => c = '\n' || c = '\t'

/-- A style for nothing is looked up in a text that stays in one piece, and nowhere else. -/
def Span.isLookedUp (text : List Char) (s : Span) : Bool :=
  !isTakenApart text || ((text.drop s.start).take (s.stop - s.start)).any (· ≠ '\n')

/-- Looks the styles up in the order in which their parts begin, outer ones first. -/
def lookUp (text : List Char) (asked : List Span) : Except BadNumber Unit :=
  (asked.reverse.mergeSort (·.start ≤ ·.start)).forM fun s =>
    if s.isLookedUp text then Style.lookUp s.style else .ok ()

/-- A piece as it is shown. -/
def Piece.shown : Piece → Piece
  | .plain cs => .plain (plainText cs)
  | .tag p content => .tag p content

/-- Marked-up text as it is shown, in stretches between its tags. -/
def shown (markup : String) : Except MarkupFault (List (List Char)) := do
  let read := (pieces 0 [] markup.toList).map Piece.shown
  let asked ← spans 0 [] read
  let parts := stretches read
  ofNumber (lookUp parts.flatten asked)
  return parts

/-- Blanks in place of the tabs of a line. A tab counts as a blank, and what is missing to the next
multiple of eight columns is filled up; `part` is the text since the last tab, latest first. -/
def withoutTabs (column : Nat) (part : List Char) : List Char → List Char
  | [] => []
  | '\t' :: cs =>
    let column := column + Text.columns (part.reverse ++ [' '])
    let missing := (8 - column % 8) % 8
    ' ' :: List.replicate missing ' ' ++ withoutTabs (column + missing) [] cs
  | '\n' :: cs => '\n' :: withoutTabs 0 [] cs
  | c :: cs => c :: withoutTabs column (c :: part) cs

/-- What a marked-up line comes out as. -/
def printed (markup : String) : Except MarkupFault String :=
  (shown markup).map fun stretches =>
    String.ofList (withoutTabs 0 [] stretches.flatten) ++ "\n"

end Revocation.Console
