/-!
White space that may surround a numeral or another text.
-/

namespace Flipbook.Text

/-- Tab to carriage return, the plain space, and the separators outside ASCII. The four ASCII
information separators are not blank. -/
def isBlank (c : Char) : Bool :=
  let code := c.toNat
  (9 ≤ code && code ≤ 13) || code == 0x20 || code == 0x85 || code == 0xa0 || code == 0x1680 ||
    (0x2000 ≤ code && code ≤ 0x200a) || code == 0x2028 || code == 0x2029 || code == 0x202f ||
    code == 0x205f || code == 0x3000

def isSpace (c : Char) : Bool := isBlank c || (0x1c ≤ c.toNat && c.toNat ≤ 0x1f)

def trim (isMargin : Char → Bool) (text : List Char) : List Char :=
  ((text.dropWhile isMargin).reverse.dropWhile isMargin).reverse

def trimBlanks (text : List Char) : List Char := trim isBlank text

end Flipbook.Text
