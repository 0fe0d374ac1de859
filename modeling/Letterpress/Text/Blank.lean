/-!
This file fixes the white space of texts and how it is stripped.
-/

namespace Letterpress.Text

/-- White space is the tabs, line ends, separators and spaces of all scripts. -/
def isBlank (character : Char) : Bool :=
  let code := character.toNat
  (0x9 ≤ code && code ≤ 0xd) || (0x1c ≤ code && code ≤ 0x20) || code = 0x85 || code = 0xa0 ||
    code = 0x1680 || (0x2000 ≤ code && code ≤ 0x200a) || code = 0x2028 || code = 0x2029 ||
    code = 0x202f || code = 0x205f || code = 0x3000

/-- This drops the white space at the end. -/
def stripRight (characters : List Char) : List Char :=
  (characters.reverse.dropWhile isBlank).reverse

/-- This drops the white space at both ends. -/
def stripList (characters : List Char) : List Char :=
  stripRight (characters.dropWhile isBlank)

def strip (text : String) : String :=
  String.ofList (stripList text.toList)

def isBlankText (text : String) : Bool :=
  text.toList.all isBlank

end Letterpress.Text
