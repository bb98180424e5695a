import FlowRunner.Url.Basic

/-!
This module contains the paths of requests.
-/

namespace FlowRunner.Http.Path

def base : Url := { scheme := "http", host := "test" }

def target (s : String) : Except Url.Problem Url := do
  base.below (← Url.read s)

def segments : List Char → List (List Char)
  | [] => [[]]
  | c :: rest =>
    if c == '/' then [] :: segments rest
    else
      match segments rest with
      | [] => [[c]]
      | s :: more => (c :: s) :: more

end FlowRunner.Http.Path
