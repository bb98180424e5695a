import FlowRunner.Text.LowerCase
import FlowRunner.Url.Label
import FlowRunner.Url.Quoted

/-!
This module contains the hosts of URLs: addresses of two kinds, and names.
-/

namespace FlowRunner.Url

inductive HostProblem where
  | address4
  | address6
  | name
  deriving DecidableEq, Repr

namespace Host

def digitRuns : List Char → List Nat
  | [] => [0]
  | c :: rest =>
    if c.isDigit then
      match digitRuns rest with
      | [] => [1]
      | n :: more => (n + 1) :: more
    else 0 :: digitRuns rest

/--
Whether a host looks like four numbers with a character between any two of them. That character may
be a digit too, so a run of digits can be several of the numbers.
-/
def looksLikeAddress4 (host : String) : Bool :=
  let runs := digitRuns host.toList
  runs.length ≤ 4 && runs.all (0 < ·) && 4 ≤ runs.foldl (fun sum n => sum + (n + 1) / 2) 0

def isByteText (s : String) : Bool :=
  let cs := s.toList
  !cs.isEmpty && cs.length ≤ 3 && cs.all Char.isDigit && (s == "0" || cs.head? != some '0') &&
    cs.foldl (fun n c => 10 * n + (c.toNat - '0'.toNat)) 0 ≤ 255

def isAddress4 (host : String) : Bool :=
  let parts := host.splitOn "."
  parts.length == 4 && parts.all isByteText

def isHexText (s : String) : Bool :=
  let cs := s.toList
  !cs.isEmpty && cs.length ≤ 4 && cs.all fun c =>
    c.isDigit || ('a' ≤ c && c ≤ 'f') || ('A' ≤ c && c ≤ 'F')

def hexParts? (s : String) : Option (List String) :=
  let parts := s.splitOn ":"
  let last := parts.getLast?.getD ""
  if 3 ≤ parts.length && last.contains '.' then
    if isAddress4 last then some (parts.dropLast ++ ["0", "0"]) else none
  else some parts

def partCount : Nat := 8

/-- Whether parts form an address. One gap may stand for any number of parts, at least one. -/
def isHexAddress (parts : List String) : Bool :=
  let inner := (parts.drop 1).dropLast
  match inner.filter (· == "") with
  | [] => parts.length == partCount && parts.all isHexText
  | [_] =>
    let before := parts.takeWhile (· != "")
    let after := (parts.reverse.takeWhile (· != "")).reverse
    let atStart := parts.head? == some ""
    let atEnd := parts.getLast? == some ""
    let kept := before ++ after
    (!atStart || inner.head? == some "") && (!atEnd || inner.getLast? == some "") &&
      kept.all isHexText && kept.length < partCount
  | _ => false

def isAddress6 (s : String) : Bool :=
  let zoned := match s.splitOn "%" with
    | [address] => some address
    | [address, zone] => if zone == "" then none else some address
    | _ => none
  match zoned.bind hexParts? with
  | some parts => 3 ≤ parts.length && parts.length ≤ partCount + 1 && isHexAddress parts
  | none => false

def withoutBrackets? (host : String) : Option String :=
  match host.toList with
  | '[' :: rest =>
    if rest.getLast? == some ']' then some (String.ofList rest.dropLast) else none
  | _ => none

def normal (host : String) : Except HostProblem String :=
  if host == "" then .ok ""
  else if looksLikeAddress4 host then
    if isAddress4 host then .ok host else .error .address4
  else
    match withoutBrackets? host with
    | some address => if isAddress6 address then .ok address else .error .address6
    | none =>
      let name := Text.lowered host
      if host.toList.all fun c => c.toNat < 0x80 then .ok (quoted isHostSafe name)
      else
        match Label.nameToAscii? name.toList with
        | some cs => .ok (String.ofList cs)
        | none => .error .name

end Host

end FlowRunner.Url
