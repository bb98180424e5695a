import FlowRunner.Action.Fault

/-!
This module contains what an action can ask of the device it works on: calls to the page of its
session, and files.
-/

namespace FlowRunner.Device

inductive ElementCall where
  | click (timeout : Nat)
  | clear (timeout : Nat)
  | fill (text : String) (timeout : Nat)
  | textContent
  | innerHtml
  | attribute (name : Value)
  deriving Repr

inductive PageCall where
  | goto (url : Value) (waitUntil : Option String) (timeout : Option Nat)
  | title
  | count (selector : Value)
  | element (selector : Value) (index : Nat) (call : ElementCall)
  | fill (selector : Value) (text : String)
  | click (selector : Value)
  | waitForSelector (selector : Value) (timeout : Nat)
  | waitForLoadState (state : String)
  | waitForTimeout (delay : Value)
  | screenshot (fullPage : Option Bool)
  | expectDownload (timeout : Nat)
  | saveDownload (path : String)
  | evaluate (selectors : String) (limit : Int)
  deriving Repr

def ElementCall.Result : ElementCall → Type
  | .textContent => Value
  | .innerHtml => Value
  | .attribute _ => Value
  | _ => Unit

def PageCall.Result : PageCall → Type
  | .title => Value
  | .count _ => Nat
  | .element _ _ call => call.Result
  | .screenshot _ => List UInt8
  | .evaluate .. => List Value
  | _ => Unit

inductive Query where
  | page (call : PageCall)
  | url
  | readFile (path : String)
  | writeFile (path : String) (content : Content)
  | makeFolders (path : String)
  | fileSize (path : String)
  deriving Repr

def Query.Result : Query → Type
  | .page call => call.Result
  | .url => Value
  | .readFile _ => Content
  | .fileSize _ => Nat
  | _ => Unit

def Answer (q : Query) : Type :=
  Except Fault q.Result

namespace ElementCall

def method : ElementCall → String
  | .click _ => "element.click"
  | .clear _ => "element.clear"
  | .fill .. => "element.fill"
  | .textContent => "element.text_content"
  | .innerHtml => "element.inner_html"
  | .attribute _ => "element.get_attribute"

def arguments : ElementCall → List Value
  | .click timeout => [.int timeout]
  | .clear timeout => [.int timeout]
  | .fill text timeout => [.str text, .int timeout]
  | .textContent => []
  | .innerHtml => []
  | .attribute name => [name]

end ElementCall

namespace PageCall

def method : PageCall → String
  | .goto .. => "goto"
  | .title => "title"
  | .count _ => "locator.count"
  | .element _ _ call => call.method
  | .fill .. => "fill"
  | .click _ => "click"
  | .waitForSelector .. => "wait_for_selector"
  | .waitForLoadState _ => "wait_for_load_state"
  | .waitForTimeout _ => "wait_for_timeout"
  | .screenshot _ => "screenshot"
  | .expectDownload _ => "expect_download"
  | .saveDownload _ => "download.save_as"
  | .evaluate .. => "evaluate"

def optional {α : Type} (f : α → Value) : Option α → Value
  | some a => f a
  | none => .null

def arguments : PageCall → List Value
  | .goto url waitUntil timeout => [url, optional .str waitUntil, optional (.int ·) timeout]
  | .title => []
  | .count selector => [selector]
  | .element selector index call => selector :: .int index :: call.arguments
  | .fill selector text => [selector, .str text]
  | .click selector => [selector]
  | .waitForSelector selector timeout => [selector, .int timeout]
  | .waitForLoadState state => [.str state]
  | .waitForTimeout delay => [delay]
  | .screenshot fullPage => [optional .bool fullPage, .str "png"]
  | .expectDownload timeout => [.int timeout]
  | .saveDownload path => [.str path]
  | .evaluate selectors limit => [.record [("limit", .int limit), ("selectors", .str selectors)]]

end PageCall

end FlowRunner.Device
