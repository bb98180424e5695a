import FlowRunner.Text.Word

/-!
This module contains the tokens of a template. A token is a name of word characters between two
opening and two closing braces.
-/

namespace FlowRunner.Template

inductive Piece where
  | char (c : Char)
  | token (name : String)
  deriving DecidableEq, Repr

def takeClosing? : List Char → Option (List Char)
  | '}' :: '}' :: rest => some rest
  | _ => none

def takeToken? : List Char → Option (List Char × List Char)
  | '{' :: '{' :: rest =>
    match rest.takeWhile Text.isWordChar, takeClosing? (rest.dropWhile Text.isWordChar) with
    | c :: name, some rest => some (c :: name, rest)
    | _, _ => none
  | _ => none

theorem length_of_takeClosing? {cs rest : List Char} (h : takeClosing? cs = some rest) :
    rest.length < cs.length := by
  unfold takeClosing? at h
  split at h
  · simp only [Option.some.injEq] at h
    simp only [h, List.length_cons]
    omega
  · simp at h

theorem length_of_takeToken? {cs name rest : List Char} (h : takeToken? cs = some (name, rest)) :
    rest.length < cs.length := by
  unfold takeToken? at h
  split at h
  · next tail =>
    split at h
    · next after _ closing =>
      simp only [Option.some.injEq, Prod.mk.injEq] at h
      have dropped := (List.dropWhile_sublist (l := tail) Text.isWordChar).length_le
      have closed := length_of_takeClosing? closing
      simp only [← h.2, List.length_cons]
      omega
    · simp at h
  · simp at h

def pieces (cs : List Char) : List Piece :=
  match h : takeToken? cs with
  | some (name, rest) =>
    have := length_of_takeToken? h
    .token (String.ofList name) :: pieces rest
  | none =>
    match cs with
    | [] => []
    | c :: rest => .char c :: pieces rest
termination_by cs.length

def hasToken (template : String) : Bool :=
  (pieces template.toList).any fun
    | .token _ => true
    | .char _ => false

end FlowRunner.Template
