import FlowRunner.Number.Reading
import FlowRunner.Text.Blank
import FlowRunner.Text.Quoted
import FlowRunner.Url.Host
import FlowRunner.Value.Text

/-!
This module contains URLs: their parts, how they are read, and how they are written.
-/

namespace FlowRunner

structure Url where
  scheme : String := ""
  user : String := ""
  host : String := ""
  port : Option Int := none
  path : String := ""
  query : Option String := none
  fragment : Option String := none
  deriving DecidableEq, Repr, Inhabited

namespace Url

inductive Problem where
  | tooLong
  | longPart (name : String)
  | controlChar (c : Char) (position : Nat)
  | host (kind : HostProblem) (host : String)
  | port (port : String)
  | unseparatedPath
  | doubleSlash
  | leadingColon
  deriving DecidableEq, Repr

def HostProblem.message : HostProblem → String
  | .address4 => "Invalid IPv4 address: "
  | .address6 => "Invalid IPv6 address: "
  | .name => "Invalid IDNA hostname: "

def Problem.message : Problem → String
  | .tooLong => "URL too long"
  | .longPart name => "URL component " ++ Text.quoted name ++ " too long"
  | .controlChar c position =>
    "Invalid non-printable ASCII character in URL, " ++ Text.quoted (String.singleton c) ++
      " at position " ++ intText position ++ "."
  | .host kind name => HostProblem.message kind ++ Text.quoted name
  | .port written => "Invalid port: " ++ Text.quoted written
  | .unseparatedPath => "For absolute URLs, path must be empty or begin with '/'"
  | .doubleSlash => "Relative URLs cannot have a path starting with '//'"
  | .leadingColon => "Relative URLs cannot have a path starting with ':'"

/-! ### Ports -/

def maxPortDigits : Nat := 4300

def readInt? (s : String) : Option Int :=
  let (negative, cs) := Binary64.takeSign (Text.stripChars s.toList)
  match (Binary64.dropUnderscores? false cs).map Binary64.takeDigits with
  | some (digits, []) =>
    let n : Int := Numeral.ofDigits digits
    if digits.isEmpty || maxPortDigits < digits.length then none
    else some (if negative then -n else n)
  | _ => none

def standardPorts : List (String × Int) :=
  [("ftp", 21), ("http", 80), ("https", 443), ("ws", 80), ("wss", 443)]

def readPort (scheme : String) (port : String) : Except Problem (Option Int) :=
  if port == "" then .ok none
  else
    match readInt? port with
    | some n => .ok (if standardPorts.contains (scheme, n) then none else some n)
    | none => .error (.port port)

/-! ### Paths -/

def dropDots (kept : List String) : List String → List String
  | [] => kept.reverse
  | segment :: rest =>
    if segment == "." then dropDots kept rest
    else if segment == ".." then dropDots (if kept == [""] then kept else kept.drop 1) rest
    else dropDots (segment :: kept) rest

def withoutDots (path : String) : String :=
  "/".intercalate (dropDots [] (path.splitOn "/"))

def checkPath (hasScheme hasHost : Bool) (path : String) : Except Problem Unit :=
  if hasHost then
    if path == "" || path.startsWith "/" then .ok () else .error .unseparatedPath
  else if hasScheme then .ok ()
  else if path.startsWith "//" then .error .doubleSlash
  else if path.startsWith ":" then .error .leadingColon
  else .ok ()

/-! ### Reading -/

def splitBefore (stops : List Char) (cs : List Char) : List Char × List Char :=
  (cs.takeWhile fun c => !stops.contains c, cs.dropWhile fun c => !stops.contains c)

def takeScheme (cs : List Char) : List Char × List Char :=
  let (name, rest) := cs.span fun c => c.isAlphanum || "+-.".contains c
  match rest with
  | ':' :: rest => if name.head?.all Char.isAlpha then (name, rest) else ([], cs)
  | _ => ([], cs)

def takeAuthority : List Char → List Char × List Char
  | '/' :: '/' :: rest => splitBefore ['/', '?', '#'] rest
  | cs => ([], cs)

def after? (mark : Char) : List Char → Option (List Char)
  | [] => none
  | c :: rest => if c == mark then some rest else none

def takeUser (cs : List Char) : List Char × List Char :=
  if cs.contains '@' then
    let rest := (cs.reverse.takeWhile (· != '@')).reverse
    (cs.take (cs.length - rest.length - 1), rest)
  else ([], cs)

def takeHost (cs : List Char) : List Char × List Char :=
  if cs.head? == some '[' && cs.contains ']' then
    let rest := (cs.reverse.takeWhile (· != ']')).reverse
    (cs.take (cs.length - rest.length), rest)
  else splitBefore [':', '@'] cs

def maxLength : Nat := 65536

def controlChar? (cs : List Char) : Option (Char × Nat) :=
  cs.zipIdx.find? fun (c, _) => c.toNat < 0x20 || c.toNat == 0x7F

def ofParts (scheme authority path : String) (query fragment : Option String) :
    Except Problem Url := do
  let (user, rest) := takeUser authority.toList
  let (host, rest) := takeHost rest
  let hostText := String.ofList host
  let user := quoted isUserSafe (String.ofList user)
  let host ← (Host.normal hostText).mapError fun kind => .host kind hostText
  let port ← readPort scheme (String.ofList ((after? ':' rest).getD rest))
  let hasScheme := scheme != ""
  let hasHost := user != "" || host != "" || port.isSome
  checkPath hasScheme hasHost path
  let path := if hasScheme || hasHost then withoutDots path else path
  return {
    scheme := Text.lowered scheme
    user
    host
    port
    path := quoted isPathSafe path
    query := query.map (quoted isQuerySafe)
    fragment := fragment.map (quoted isFragmentSafe) }

def read (s : String) : Except Problem Url :=
  let cs := s.toList
  if maxLength < cs.length then .error .tooLong
  else
    match controlChar? cs with
    | some (c, position) => .error (.controlChar c position)
    | none =>
      let (scheme, rest) := takeScheme cs
      let (authority, rest) := takeAuthority rest
      let (path, rest) := splitBefore ['?', '#'] rest
      let query := (after? '?' rest).map fun rest => (splitBefore ['#'] rest).1
      let fragment := after? '#' (splitBefore ['#'] rest).2
      ofParts (String.ofList scheme) (String.ofList authority) (String.ofList path)
        (query.map String.ofList) (fragment.map String.ofList)

/-! ### Writing -/

def authority (u : Url) : String :=
  (if u.user == "" then "" else u.user ++ "@") ++
    (if u.host.contains ':' then "[" ++ u.host ++ "]" else u.host) ++
    (u.port.map fun n => ":" ++ intText n).getD ""

def text (u : Url) : String :=
  let authority := u.authority
  (if u.scheme == "" then "" else u.scheme ++ ":") ++
    (if authority == "" then "" else "//" ++ authority) ++ u.path ++
    (u.query.map ("?" ++ ·)).getD "" ++ (u.fragment.map ("#" ++ ·)).getD ""

/-! ### Relative URLs -/

def isAbsolute (u : Url) : Bool :=
  u.scheme != "" && u.host != ""

def checkPart (name part : String) : Except Problem Unit :=
  if maxLength < part.length then .error (.longPart name) else .ok ()

def below (base u : Url) : Except Problem Url := do
  if u.isAbsolute then return u
  let path := String.ofList ('/' :: (u.path.toList.dropWhile (· == '/')))
  checkPart "path" path
  checkPart "query" (u.query.getD "")
  ofParts base.scheme base.authority path u.query base.fragment

def credentials? (u : Url) : Option String :=
  let (name, rest) := splitBefore [':'] u.user.toList
  let name := unquoted (String.ofList name)
  let password := unquoted (String.ofList (rest.drop 1))
  if name == "" && password == "" then none else some (name ++ ":" ++ password)

def plainPath (u : Url) : String :=
  unquoted (if u.path == "" then "/" else u.path)

end Url

end FlowRunner
