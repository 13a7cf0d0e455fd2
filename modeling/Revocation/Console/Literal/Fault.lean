import Revocation.Numeral

/-!
What keeps a written value from being one.
-/
namespace Revocation.Console.Literal

/-- How a whole number is written. -/
inductive Base
  | binary | octal | decimal | hexadecimal | imaginary
deriving DecidableEq

def Base.name : Base → String
  | .binary => "binary"
  | .octal => "octal"
  | .decimal => "decimal"
  | .hexadecimal => "hexadecimal"
  | .imaginary => "imaginary"

/-- The kinds of expressions. -/
inductive Form
  | name | attribute | call | literal | formatted | ellipsis
  | truth (word : String)
  | tuple | set | dictionary | comparison | operation | conditional | named | function | generator
  | setComprehension | dictionaryComprehension | yield | await | starred
deriving DecidableEq

def Form.text : Form → String
  | .name => "name"
  | .attribute => "attribute"
  | .call => "function call"
  | .literal => "literal"
  | .formatted => "f-string expression"
  | .ellipsis => "ellipsis"
  | .truth word => word
  | .tuple => "tuple"
  | .set => "set display"
  | .dictionary => "dict literal"
  | .comparison => "comparison"
  | .operation => "expression"
  | .conditional => "conditional expression"
  | .named => "named expression"
  | .function => "lambda"
  | .generator => "generator expression"
  | .setComprehension => "set comprehension"
  | .dictionaryComprehension => "dict comprehension"
  | .yield => "yield expression"
  | .await => "await expression"
  | .starred => "starred"

/-- What is wrong with the parameters of a function. -/
inductive Misplaced
  | plainAfterDefault | inBrackets | firstSlash | secondSlash | slashAfterStar | noCommaAfterSlash
  | bareStar | defaultOfStarred | secondStar | defaultOfLast | afterLast
deriving DecidableEq

def Misplaced.message : Misplaced → String
  | .plainAfterDefault => "non-default argument follows default argument"
  | .inBrackets => "Lambda expression parameters cannot be parenthesized"
  | .firstSlash => "at least one argument must precede /"
  | .secondSlash => "/ may appear only once"
  | .slashAfterStar => "/ must be ahead of *"
  | .noCommaAfterSlash => "expected comma between / and *"
  | .bareStar => "named arguments must follow bare *"
  | .defaultOfStarred => "var-positional argument cannot have default value"
  | .secondStar => "* argument may appear only once"
  | .defaultOfLast => "var-keyword argument cannot have default value"
  | .afterLast => "arguments cannot follow var-keyword argument"

inductive Fault
  | unclosed (opening : Char)
  | unmatched (closing : Char)
  | mismatched (closing opening : Char)
  | tooDeep
  | unterminated (triple : Bool)
  | number (base : Base)
  | digit (c : Char) (base : Base)
  | leadingZeros
  | tooManyDigits (count : Nat)
  | stray (c : Char)
  | nullByte
  | continuation
  | unexpectedEnd
  | bytesNotAscii
  | mixedTexts
  /-- An escape in a text, from its backslash to its end. -/
  | escape (mark : Char) (start last : Nat)
  | beyondUnicode (start last : Nat)
  | byteEscape (position : Nat)
  | missingComma
  | missingElse
  | missingCall (word : String)
  | nameEquals
  | assigned (what : Form)
  | named (what : Form)
  /-- What cannot be given a value, in a loop or as an argument. -/
  | noTarget (what : Form)
  | argumentEquals
  | bareGenerator
  /-- An argument by position after one by name, or after unpacked ones. -/
  | latePosition (unpacked : Bool)
  | lateUnpacking
  | starredComprehension
  | tupleComprehension
  | unpackedComprehension
  | missingDefault
  | parameter (what : Misplaced)
  | starred (double : Bool)
  | emptyStar
  | missingColon
  | missingValue
  | starredValue
  | invalid
  | unhashable (type : String)
  | unpacked
  | malformed
deriving DecidableEq

namespace Fault

/-- Whether the text cannot be read at all. -/
def isGrammar : Fault → Bool
  | .unhashable _ => false
  | .unpacked => false
  | .malformed => false
  | _ => true

def escapeForm (mark : Char) : String :=
  if mark = 'x' then "\\xXX" else if mark = 'u' then "\\uXXXX" else "\\UXXXXXXXX"

def undecodable (start last : Nat) (why : String) : String :=
  s!"(unicode error) 'unicodeescape' codec can't decode bytes in position {start}-{last}: {why}"

def message : Fault → String
  | .unclosed c => s!"'{c}' was never closed"
  | .unmatched c => s!"unmatched '{c}'"
  | .mismatched c d =>
    s!"closing parenthesis '{c}' does not match opening parenthesis '{d}'"
  | .tooDeep => "too many nested parentheses"
  | .unterminated false => "unterminated string literal (detected at line 1)"
  | .unterminated true => "unterminated triple-quoted string literal (detected at line 1)"
  | .number n => s!"invalid {n.name} literal"
  | .digit c n => s!"invalid digit '{c}' in {n.name} literal"
  | .leadingZeros => "leading zeros in decimal integer literals are not permitted; " ++
      "use an 0o prefix for octal integers"
  | .tooManyDigits n => (Numeral.Fault.tooLong n).message "" ++
      " - Consider hexadecimal for huge integer literals to avoid decimal conversion limits."
  | .stray c =>
    if Text.isPrintable c then s!"invalid character '{c}' ({Text.codePointName c})"
    else s!"invalid non-printable character {Text.codePointName c}"
  | .nullByte => "source code string cannot contain null bytes"
  | .continuation => "unexpected character after line continuation character"
  | .unexpectedEnd => "unexpected EOF while parsing"
  | .bytesNotAscii => "bytes can only contain ASCII literal characters"
  | .mixedTexts => "cannot mix bytes and nonbytes literals"
  | .escape mark i j => undecodable i j s!"truncated {escapeForm mark} escape"
  | .beyondUnicode i j => undecodable i j "illegal Unicode character"
  | .byteEscape i => s!"(value error) invalid \\x escape at position {i}"
  | .missingComma => "invalid syntax. Perhaps you forgot a comma?"
  | .missingElse => "expected 'else' after 'if' expression"
  | .missingCall word => s!"Missing parentheses in call to '{word}'. Did you mean {word}(...)?"
  | .nameEquals => "invalid syntax. Maybe you meant '==' or ':=' instead of '='?"
  | .assigned f => s!"cannot assign to {f.text} here. Maybe you meant '==' instead of '='?"
  | .named f => s!"cannot use assignment expressions with {f.text}"
  | .noTarget f => s!"cannot assign to {f.text}"
  | .argumentEquals => "expression cannot contain assignment, perhaps you meant \"==\"?"
  | .bareGenerator => "Generator expression must be parenthesized"
  | .latePosition false => "positional argument follows keyword argument"
  | .latePosition true => "positional argument follows keyword argument unpacking"
  | .lateUnpacking => "iterable argument unpacking follows keyword argument unpacking"
  | .starredComprehension => "iterable unpacking cannot be used in comprehension"
  | .tupleComprehension => "did you forget parentheses around the comprehension target?"
  | .unpackedComprehension => "dict unpacking cannot be used in dict comprehension"
  | .missingDefault => "expected default value expression"
  | .parameter m => m.message
  | .starred false => "cannot use starred expression here"
  | .starred true => "cannot use double starred expression here"
  | .emptyStar => "Invalid star expression"
  | .missingColon => "':' expected after dictionary key"
  | .missingValue => "expression expected after dictionary key and ':'"
  | .starredValue => "cannot use a starred expression in a dictionary value"
  | .invalid => "invalid syntax"
  | .unhashable type => s!"unhashable type: '{type}'"
  | .unpacked => "malformed node or string: None"
  | .malformed => "malformed node or string"

end Fault
end Revocation.Console.Literal
