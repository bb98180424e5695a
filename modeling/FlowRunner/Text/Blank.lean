/-!
This module contains white space and its removal from both ends of a text. White space is what
Unicode gives the property `White_Space`, and the four information separators `U+001C` to `U+001F`.
-/

namespace FlowRunner.Text

def isBlank (c : Char) : Bool :=
  let n := c.toNat
  (0x9 ≤ n && n ≤ 0xD) || (0x1C ≤ n && n ≤ 0x20) || n == 0x85 || n == 0xA0 || n == 0x1680 ||
    (0x2000 ≤ n && n ≤ 0x200A) || n == 0x2028 || n == 0x2029 || n == 0x202F || n == 0x205F ||
    n == 0x3000

def stripRight (cs : List Char) : List Char :=
  (cs.reverse.dropWhile isBlank).reverse

def stripChars (cs : List Char) : List Char :=
  stripRight (cs.dropWhile isBlank)

def strip (s : String) : String :=
  String.ofList (stripChars s.toList)

end FlowRunner.Text
