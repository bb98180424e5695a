import FlowRunner.Sheet.Basic

/-!
This module contains the files that actions read and write.
-/

namespace FlowRunner

inductive Content where
  | text (s : String)
  | bytes (b : List UInt8)
  | workbook (w : Workbook)
  | incomplete
  deriving DecidableEq, Repr

abbrev Place := List String

inductive PathProblem where
  | missing
  | isFolder
  | notFolder
  | taken
  | nameTooLong
  | nullChar
  deriving DecidableEq, Repr

structure Disk where
  files : List (Place × Content) := []
  folders : List Place := []
  deriving DecidableEq, Repr, Inhabited

namespace Disk

def content? (d : Disk) (place : Place) : Option Content :=
  (d.files.find? fun f => f.1 == place).map (·.2)

def isFile (d : Disk) (place : Place) : Bool :=
  d.files.any fun f => f.1 == place

def isFolder (d : Disk) (place : Place) : Bool :=
  place.all (· == "..") || place == ["/"] || d.folders.contains place

def parent (place : Place) : Place :=
  if place.all (· == "..") then place ++ [".."] else place.dropLast

def maxNameSize : Nat := 255

def maxPathSize : Nat := 4095

def enter (here : Place) (name : String) : Except PathProblem Place :=
  if name == "" || name == "." then .ok here
  else if name == ".." then .ok (parent here)
  else if maxNameSize < name.utf8ByteSize then .error .nameTooLong
  else .ok (here ++ [name])

def walk (d : Disk) (here : Place) : List String → Except PathProblem Place
  | [] => .ok here
  | part :: rest => do
    let next ← enter here part
    if d.isFolder next then walk d next rest
    else if d.isFile next then .error .notFolder
    else .error .missing

def partsOf (path : String) : Except PathProblem (Place × List String) :=
  let parts := path.splitOn "/"
  if path.contains '\x00' then .error .nullChar
  else if maxPathSize < path.utf8ByteSize then .error .nameTooLong
  else .ok (if parts.head? == some "" && 1 < parts.length then ["/"] else [], parts)

def locate (d : Disk) (path : String) : Except PathProblem Place := do
  let (start, parts) ← partsOf path
  let folder ← d.walk start parts.dropLast
  enter folder (parts.getLast?.getD "")

def read (d : Disk) (path : String) : Except PathProblem Content := do
  let place ← d.locate path
  if d.isFolder place then .error .isFolder
  else
    match d.content? place with
    | some content => return content
    | none => .error .missing

def put (files : List (Place × Content)) (place : Place) (content : Content) :
    List (Place × Content) :=
  match files with
  | [] => [(place, content)]
  | f :: rest => if f.1 == place then (place, content) :: rest else f :: put rest place content

/-- The place where a path lets a new file be written. A path with a slash at its end is that of a
folder. -/
def locateNew (d : Disk) (path : String) : Except PathProblem Place := do
  let (start, parts) ← partsOf path
  let above := parts.dropLast
  if parts.getLast? == some "" && above.any (· != "") then
    discard <| d.walk start (above.reverse.dropWhile (· == "")).tail.reverse
    .error .isFolder
  else d.locate path

def write (d : Disk) (path : String) (content : Content) : Except PathProblem Disk := do
  let place ← d.locateNew path
  if d.isFolder place then .error .isFolder
  else return { d with files := put d.files place content }

def pathExists (d : Disk) (path : String) : Bool :=
  match d.locate path with
  | .ok place => d.isFolder place || d.isFile place
  | .error _ => false

def size (d : Disk) (path : String) : Nat :=
  match d.read path with
  | .ok (.text s) => s.utf8ByteSize
  | .ok (.bytes b) => b.length
  | _ => 0

def makeFolder (d : Disk) (path : String) : Except PathProblem Disk := do
  let place ← d.locate path
  if d.isFolder place || d.isFile place then .error .taken
  else return { d with folders := d.folders ++ [place] }

def folderOf (path : String) : String :=
  let above := (path.toList.reverse.dropWhile (· != '/'))
  let trimmed := above.dropWhile (· == '/')
  String.ofList (if trimmed.isEmpty then above.reverse else trimmed.reverse)

def nameOf (path : String) : String :=
  String.ofList (path.toList.reverse.takeWhile (· != '/')).reverse

/-- The paths of the folders above a path, the top one first. Their number is limited by `fuel`. -/
def foldersAbove : (fuel : Nat) → String → List String
  | 0, _ => []
  | fuel + 1, path =>
    let above := folderOf path
    if above == "" || nameOf path == "" then [] else foldersAbove fuel above ++ [above]

def ensureFolder (d : Disk) (path : String) : Except (PathProblem × String) Disk :=
  match d.makeFolder path with
  | .ok d => .ok d
  | .error .taken =>
    if (d.locate path).map d.isFolder matches .ok true then .ok d else .error (.taken, path)
  | .error e => .error (e, path)

def makeFolders (d : Disk) (path : String) : Except (PathProblem × String) Disk := do
  let d ← (foldersAbove path.length path).foldlM
    (fun d above => if d.pathExists above then .ok d else d.ensureFolder above) d
  d.ensureFolder path

end Disk

end FlowRunner
