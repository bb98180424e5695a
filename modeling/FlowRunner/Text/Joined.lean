/-!
This module contains the joining of texts with a separator between them, and braces around a text.
-/

namespace FlowRunner.Text

def joined (separator : String) : List String → String
  | [] => ""
  | [only] => only
  | first :: rest => first ++ separator ++ joined separator rest

def braced (s : String) : String :=
  String.singleton '{' ++ s ++ String.singleton '}'

@[simp]
theorem toList_braced (s : String) : (braced s).toList = '{' :: (s.toList ++ ['}']) := by
  simp [braced]

end FlowRunner.Text
