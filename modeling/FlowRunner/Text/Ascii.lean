import FlowRunner.Text.Unwritable

/-!
This module contains the check that a text can be written in ASCII.
-/

namespace FlowRunner.Text.Ascii

def isAscii (c : Char) : Bool :=
  c.toNat < 0x80

def error? (s : String) : Option Unwritable :=
  unwritable? Char.toNat isAscii s.toList

def message (e : Unwritable) : String :=
  e.message "ascii" "ordinal not in range(128)"

end FlowRunner.Text.Ascii
