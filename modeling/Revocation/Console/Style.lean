import Revocation.Numeral
import Revocation.Text.Case

/-!
Styles, as far as their names go: two names of one style have the same normal form, in which a tag
that opens a style and the one that closes it are compared.
-/
namespace Revocation.Console

def colorTable : String := "
black red green yellow blue magenta cyan white bright_black bright_red bright_green
bright_yellow bright_blue bright_magenta bright_cyan bright_white grey0 gray0 navy_blue
dark_blue blue3 blue1 dark_green deep_sky_blue4 dodger_blue3 dodger_blue2 green4 spring_green4
turquoise4 deep_sky_blue3 dodger_blue1 green3 spring_green3 dark_cyan light_sea_green
deep_sky_blue2 deep_sky_blue1 spring_green2 cyan3 dark_turquoise turquoise2 green1 spring_green1
medium_spring_green cyan2 cyan1 dark_red deep_pink4 purple4 purple3 blue_violet orange4 grey37
gray37 medium_purple4 slate_blue3 royal_blue1 chartreuse4 dark_sea_green4 pale_turquoise4
steel_blue steel_blue3 cornflower_blue chartreuse3 cadet_blue sky_blue3 steel_blue1 pale_green3
sea_green3 aquamarine3 medium_turquoise chartreuse2 sea_green2 sea_green1 aquamarine1
dark_slate_gray2 dark_magenta dark_violet purple light_pink4 plum4 medium_purple3 slate_blue1
yellow4 wheat4 grey53 gray53 light_slate_grey light_slate_gray medium_purple light_slate_blue
dark_olive_green3 dark_sea_green light_sky_blue3 sky_blue2 dark_sea_green3 dark_slate_gray3
sky_blue1 chartreuse1 light_green pale_green1 dark_slate_gray1 red3 medium_violet_red magenta3
dark_orange3 indian_red hot_pink3 medium_orchid3 medium_orchid medium_purple2 dark_goldenrod
light_salmon3 rosy_brown grey63 gray63 medium_purple1 gold3 dark_khaki navajo_white3 grey69
gray69 light_steel_blue3 light_steel_blue yellow3 dark_sea_green2 light_cyan3 light_sky_blue1
green_yellow dark_olive_green2 dark_sea_green1 pale_turquoise1 deep_pink3 magenta2 hot_pink2
orchid medium_orchid1 orange3 light_pink3 pink3 plum3 violet light_goldenrod3 tan misty_rose3
thistle3 plum2 khaki3 light_goldenrod2 light_yellow3 grey84 gray84 light_steel_blue1 yellow2
dark_olive_green1 honeydew2 light_cyan1 red1 deep_pink2 deep_pink1 magenta1 orange_red1
indian_red1 hot_pink dark_orange salmon1 light_coral pale_violet_red1 orchid2 orchid1 orange1
sandy_brown light_salmon1 light_pink1 pink1 plum1 gold1 navajo_white1 misty_rose1 thistle1
yellow1 light_goldenrod1 khaki1 wheat1 cornsilk1 grey100 gray100 grey3 gray3 grey7 gray7 grey11
gray11 grey15 gray15 grey19 gray19 grey23 gray23 grey27 gray27 grey30 gray30 grey35 gray35
grey39 gray39 grey42 gray42 grey46 gray46 grey50 gray50 grey54 gray54 grey58 gray58 grey62
gray62 grey66 gray66 grey70 gray70 grey74 gray74 grey78 gray78 grey82 gray82 grey85 gray85
grey89 gray89 grey93 gray93"

def colorNames : List String := Text.words colorTable.toList

def isHexDigit (c : Char) : Bool := ('0' ≤ c && c ≤ '9') || ('a' ≤ c && c ≤ 'f')

/-- What stands in the brackets after a word. -/
def argument? (word : String) (cs : List Char) : Option (List Char) :=
  let start := word.toList ++ ['(']
  if start.isPrefixOf cs ∧ cs.getLast? = some ')' then some (cs.drop start.length).dropLast
  else none

/-- A number for a part of a colour that cannot be read. -/
structure BadNumber where
  written : String
  fault : Numeral.Fault
deriving DecidableEq

def BadNumber.message (b : BadNumber) : String := b.fault.message b.written

/-- One to three ASCII digits for a number of one byte. -/
def isByte (ds : List Char) : Bool :=
  !ds.isEmpty && ds.length ≤ 3 && ds.all Numeral.isDigit &&
    Numeral.value (Numeral.digitsOf ds) ≤ 255

def partOf (written : String) : Except BadNumber Int :=
  match Numeral.readInt written with
  | .ok n => .ok n
  | .error f => .error ⟨written, f⟩

/-- Three numbers with commas between them, each of one byte. The characters are looked at first,
so that a number can only be bad by being too long or by being left out. -/
def areParts (cs : List Char) : Except BadNumber Bool :=
  if cs.isEmpty || !cs.all fun c => c = ',' || (Text.digit? c).isSome then .ok false
  else match (String.ofList cs).splitOn "," with
    | [r, g, b] => do
      let parts := [← partOf r, ← partOf g, ← partOf b]
      return parts.all (· ≤ 255)
    | _ => .ok false

/-- A colour is a name, six hexadecimal digits, a number, or three numbers for its parts. -/
def isColor (s : String) : Except BadNumber Bool :=
  if s = "default" || colorNames.contains s then .ok true
  else match s.toList with
    | '#' :: ds => .ok (ds.length = 6 && ds.all isHexDigit)
    | cs =>
      match argument? "color" cs, argument? "rgb" cs with
      | some n, _ => .ok (isByte n)
      | none, some parts => areParts parts
      | none, none => .ok false

/-- Attributes in the order of the normal form. -/
def attributes : List String := [
  "bold", "dim", "italic", "underline", "blink", "blink2", "reverse", "conceal", "strike",
  "underline2", "frame", "encircle", "overline"]

def shortAttributes : List (String × String) := [
  ("d", "dim"), ("b", "bold"), ("i", "italic"), ("u", "underline"), ("r", "reverse"),
  ("c", "conceal"), ("s", "strike"), ("uu", "underline2"), ("o", "overline")]

def attribute? (word : String) : Option String :=
  if attributes.contains word then some word else List.lookup word shortAttributes

structure Style where
  flags : List (String × Bool)
  color : Option String
  background : Option String
  link : Option String

namespace Style

def plain : Style := ⟨[], none, none, none⟩

/-- Why words are no style. -/
inductive Fault
  | unknown
  | number (bad : BadNumber)

def lowered (s : String) : String := String.ofList (Text.lowered s.toList)

/-- A colour's name, in small letters. -/
def colorOf (written : String) : Except Fault String :=
  let name := lowered written
  match isColor name with
  | .ok true => .ok name
  | .ok false => .error .unknown
  | .error bad => .error (.number bad)

/-- Reads the words of a style one after the other; a later word wins over an earlier one. -/
def ofWords (s : Style) : List String → Except Fault Style
  | [] => .ok s
  | written :: rest =>
    let word := lowered written
    if word = "on" then
      match rest with
      | [] => .error .unknown
      | c :: rest => do ofWords { s with background := some (← colorOf c) } rest
    else if word = "not" then
      match rest with
      | [] => .error .unknown
      | a :: rest =>
        match attribute? a with
        | some a => ofWords { s with flags := (a, false) :: s.flags } rest
        | none => .error .unknown
    else if word = "link" then
      match rest with
      | [] => .error .unknown
      | url :: rest => ofWords { s with link := some url } rest
    else match attribute? word with
      | some a => ofWords { s with flags := (a, true) :: s.flags } rest
      | none => do ofWords { s with color := some (← colorOf word) } rest

def ofName (name : List Char) : Except Fault Style :=
  if Text.trimmed name = "none".toList then .ok plain else ofWords plain (Text.words name)

def flagWords (s : Style) : List String :=
  attributes.filterMap fun a => (List.lookup a s.flags).map fun on => if on then a else "not " ++ a

def text (s : Style) : String :=
  let parts := s.flagWords ++ s.color.toList ++ (s.background.map ("on " ++ ·)).toList ++
    (s.link.map ("link " ++ ·)).toList
  if parts.isEmpty then "none" else " ".intercalate parts

/-- The normal form of a style's name; a name that is no style is only trimmed and put in small
letters. -/
def normalize (name : List Char) : Except BadNumber String :=
  match ofName name with
  | .ok s => .ok s.text
  | .error .unknown => .ok (String.ofList (Text.lowered (Text.trimmed name)))
  | .error (.number bad) => .error bad

/-- A style is looked up when it is shown; a name that is no style has no effect. -/
def lookUp (name : List Char) : Except BadNumber Unit :=
  match ofName name with
  | .error (.number bad) => .error bad
  | _ => .ok ()

end Style
end Revocation.Console
