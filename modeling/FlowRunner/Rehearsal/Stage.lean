import FlowRunner.Action.Outcome
import FlowRunner.Rehearsal.Page

/-!
This module contains the device that actions are tried on: a scripted page and a disk in memory.
-/

namespace FlowRunner.Rehearsal

structure Stage where
  page : Page
  disk : Disk
  deriving Inhabited

namespace Stage

def onDisk {α : Type} (path : String) (r : Except PathProblem α) : Except Fault α :=
  r.mapError (.file · path)

def write (s : Stage) (path : String) (content : Content) : Except Fault Unit × Stage :=
  match s.disk.write path content with
  | .ok disk => (.ok (), { s with disk })
  | .error problem => (.error (.file problem path), s)

def call (s : Stage) (c : Device.PageCall) : Except Fault c.Result × Stage :=
  let (r, page) := s.page.call c
  let s := { s with page }
  match c, r, s.page.script.download with
  | .saveDownload path, .ok _, some text => s.write path (.text text)
  | _, r, _ => (r, s)

def answer : (q : Device.Query) → Stage → Device.Answer q × Stage
  | .page c, s => s.call c
  | .url, s => (.ok s.page.url, s)
  | .readFile path, s => (onDisk path (s.disk.read path), s)
  | .writeFile path content, s => s.write path content
  | .makeFolders path, s =>
    match s.disk.makeFolders path with
    | .ok disk => (.ok (), { s with disk })
    | .error (problem, place) => (.error (.file problem place), s)
  | .fileSize path, s => (.ok (s.disk.size path), s)

def play {α : Type} (deed : Deed α) (s : Stage) : Except Fault α × Stage :=
  Program.run answer deed.run s

end Stage

end FlowRunner.Rehearsal
