import FlowRunner.Device.Query

/-!
This module contains pages that follow a script, so that actions can be tried without a browser.
-/

namespace FlowRunner.Rehearsal

structure Element where
  text : Value := .null
  html : Value := .str ""
  attributes : Entries := []
  deriving Repr, Inhabited

structure Script where
  url : Value := .str "about:blank"
  title : Value := .str ""
  screenshot : List UInt8 := []
  elements : List (Key × List Element) := []
  download : Option String := none
  redirects : Entries := []
  descriptions : List Value := []
  failures : List (String × String) := []
  deriving Repr, Inhabited

structure Page where
  script : Script
  url : Value
  calls : List Device.PageCall := []
  deriving Inhabited

namespace Page

def ofScript (script : Script) : Page :=
  { script, url := script.url }

def elements (p : Page) (selector : Value) : List Element :=
  match selector.toKey? with
  | some key => (Entries.get? p.script.elements key).getD []
  | none => []

def destination (p : Page) (url : Value) : Value :=
  match url with
  | .str s => (Entries.get? p.script.redirects s).getD url
  | url => url

def noteDown (p : Page) (call : Device.PageCall) : Page :=
  { p with calls := call :: p.calls }

def failure? (p : Page) (call : Device.PageCall) : Option Fault :=
  (p.script.failures.find? fun f => f.1 == call.method).map fun f => .plain .page f.2

def noElement (selector : Value) : Fault :=
  .plain .page ("no element: " ++ selector.text)

def elementResult (e : Element) : (call : Device.ElementCall) → Except Fault call.Result
  | .click _ => .ok ()
  | .clear _ => .ok ()
  | .fill .. => .ok ()
  | .textContent => .ok e.text
  | .innerHtml => .ok e.html
  | .attribute name =>
    match name.toKey with
    | .ok key => .ok (Entries.get e.attributes key)
    | .error error => .error (.shape error)

def result (p : Page) : (call : Device.PageCall) → Except Fault call.Result
  | .goto .. => .ok ()
  | .title => .ok p.script.title
  | .count selector => .ok (p.elements selector).length
  | .element selector index call =>
    match (p.elements selector)[index]? with
    | some e => elementResult e call
    | none => .error (noElement selector)
  | .fill .. => .ok ()
  | .click _ => .ok ()
  | .waitForSelector .. => .ok ()
  | .waitForLoadState _ => .ok ()
  | .waitForTimeout _ => .ok ()
  | .screenshot _ => .ok p.script.screenshot
  | .expectDownload _ => .ok ()
  | .saveDownload _ => .ok ()
  | .evaluate _ limit => .ok (p.script.descriptions.take limit.toNat)

def after (p : Page) : Device.PageCall → Page
  | .goto url _ _ => { p with url := p.destination url }
  | _ => p

def badSelector? : Device.PageCall → Option Fault
  | .count selector => unusable? selector
  | .element selector _ _ => unusable? selector
  | _ => none
where
  unusable? (selector : Value) : Option Fault :=
    match selector.toKey with
    | .ok _ => none
    | .error error => some (.shape error)

def notedCall (p : Page) (c : Device.PageCall) : Except Fault c.Result × Page :=
  match p.failure? c with
  | some fault => (.error fault, p)
  | none =>
    match p.result c with
    | .ok r => (.ok r, p.after c)
    | .error fault => (.error fault, p)

def call (p : Page) (c : Device.PageCall) : Except Fault c.Result × Page :=
  match badSelector? c with
  | some fault => (.error fault, p)
  | none => (p.noteDown c).notedCall c

end Page

end FlowRunner.Rehearsal
