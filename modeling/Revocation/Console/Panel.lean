import Revocation.Console.Markup

/-!
A framed table of names and values, as wide as the terminal.
-/
namespace Revocation.Console

/-- How many columns the terminal has. -/
def terminalWidth : Nat := 200

def blanks (n : Nat) : List Char := List.replicate n ' '

def dashes (n : Nat) : List Char := List.replicate n '─'

def padded (width : Nat) (cs : List Char) : List Char := cs ++ blanks (width - Text.columns cs)

/-- The upper edge with a title in its middle. -/
def upperEdge (title : List Char) : List Char :=
  let free := terminalWidth - 2 - Text.columns title - 2
  '╭' :: dashes (free / 2) ++ ' ' :: title ++ ' ' :: dashes (free - free / 2) ++ ['╮']

def lowerEdge : List Char := '╰' :: dashes (terminalWidth - 2) ++ ['╯']

/-- A row; the columns of each stretch of a value count for themselves. -/
def row (nameWidth : Nat) (name : List Char) (value : List (List Char)) : List Char :=
  let start := blanks 3 ++ padded nameWidth name ++ blanks 4
  let used := (value.map Text.columns).foldl (· + ·) (Text.columns start)
  '│' :: start ++ value.flatten ++ blanks (terminalWidth - 2 - used) ++ ['│']

/-- A panel of names and marked-up values. -/
def panel (title : String) (rows : List (String × String)) : Except MarkupFault String := do
  let nameWidth := (rows.map fun (name, _) => Text.columns name.toList).foldl max 0
  let lines ← rows.mapM fun (name, value) => return row nameWidth name.toList (← shown value)
  let all := upperEdge title.toList :: lines ++ [lowerEdge]
  return String.ofList (all.flatMap (· ++ ['\n']))

end Revocation.Console
