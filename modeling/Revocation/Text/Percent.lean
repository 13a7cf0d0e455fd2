import Revocation.Hex

/-!
Percent notation, in which a character stands as the bytes of its UTF-8 form.
-/
namespace Revocation.Text

/-- A percent sign and two capital hexadecimal digits for each byte. -/
def percent (c : Char) : List Char :=
  (Bytes.ofText c.toString).flatMap fun b => '%' :: (Hex.pair b).map Char.toUpper

/-- Puts the characters that are not kept into percent notation. -/
def percentOutside (kept : Char → Bool) (cs : List Char) : List Char :=
  cs.flatMap fun c => if kept c then [c] else percent c

end Revocation.Text
