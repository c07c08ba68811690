/-!
# Blank characters

Two sets of blank characters occur in this library. Unicode's white space is what may surround a
number in a payload. The wider set of blanks adds the four information separators U+001C to
U+001F; blanks are cut from both ends of query values and settings.
-/

namespace Roster

/-- Unicode's White_Space property. -/
def isWhiteSpace (c : Char) : Bool :=
  let code := c.toNat
  (0x09 ≤ code && code ≤ 0x0D) || code == 0x20 || code == 0x85 || code == 0xA0 ||
    code == 0x1680 || (0x2000 ≤ code && code ≤ 0x200A) || code == 0x2028 || code == 0x2029 ||
    code == 0x202F || code == 0x205F || code == 0x3000

def isBlank (c : Char) : Bool :=
  isWhiteSpace c || (0x1C ≤ c.toNat && c.toNat ≤ 0x1F)

def trimBy (drop : Char → Bool) (text : List Char) : List Char :=
  ((text.dropWhile drop).reverse.dropWhile drop).reverse

def trim (text : List Char) : List Char :=
  trimBy isBlank text

end Roster
