/-!
This module contains the search for a text inside another one.
-/

namespace FlowRunner.Text

def beginsWith (same : Char → Char → Bool) : List Char → List Char → Bool
  | [], _ => true
  | _ :: _, [] => false
  | n :: needle, c :: text => same n c && beginsWith same needle text

def occursIn (same : Char → Char → Bool) (needle : List Char) : List Char → Bool
  | [] => needle.isEmpty
  | c :: text => beginsWith same needle (c :: text) || occursIn same needle text

def hasPart (text needle : String) : Bool :=
  occursIn (· == ·) needle.toList text.toList

end FlowRunner.Text
