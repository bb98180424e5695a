import FlowRunner.Callback.Message
import FlowRunner.Http.Path
import FlowRunner.Json.Encoding
import FlowRunner.Schema.Basic
import FlowRunner.Text.Blank
import FlowRunner.Text.LetterCase

/-!
This module contains the requests that a worker gets and its answers to them.
-/

namespace FlowRunner.Http

inductive Body where
  | absent
  | json (v : Value)
  | malformed (error : Json.Error)
  | undeclared
  deriving Repr

namespace Body

def ofText (s : String) : Body :=
  if s == "" then .absent
  else
    match Json.read s.toUTF8.toList with
    | .ok v => .json v
    | .error e => .malformed e

end Body

def lowerCase (s : String) : String :=
  String.ofList (s.toList.map Char.toLower)

def isJsonType (contentType : String) : Bool :=
  let cs := Text.stripChars ((contentType.toList.takeWhile (· != ';')).map Char.toLower)
  match Path.segments cs with
  | [main, sub] =>
    main == "application".toList &&
      (sub == "json".toList || "+json".toList.isSuffixOf sub)
  | _ => false

structure Request where
  method : String
  path : String
  headers : List (String × String) := []
  body : Body := .absent
  deriving Repr

namespace Request

def headerOf? (headers : List (String × String)) (name : String) : Option String :=
  (headers.find? fun h => lowerCase h.1 == lowerCase name).map (·.2)

def header? (r : Request) (name : String) : Option String :=
  headerOf? r.headers name

def typeName : String := "Content-Type"

/-- The head of a request in which the type of the body comes first. It is that of JSON unless
another one is given under exactly its name. -/
def withType (headers : List (String × String)) : List (String × String) :=
  let given := headers.find? (·.1 == typeName)
  given.getD (typeName, Callback.contentType) :: headers.filter (·.1 != typeName)

def withUser (url : Url) (headers : List (String × String)) : List (String × String) :=
  match Callback.userAuthorization? url with
  | some s =>
    headers.filter (fun h => lowerCase h.1 != "authorization") ++ [("Authorization", s)]
  | none => headers

def ofParts (method target : String) (headers : List (String × String)) (body : Body) :
    Except Fault Request := do
  let url ← (Path.target target).mapError .url
  let headers := withType headers
  headers.forM fun h => do
    Callback.checkHead h.1
    Callback.checkHead h.2
  let headers := withUser url headers
  let body := match body with
    | .absent => .absent
    | body => if isJsonType ((headerOf? headers typeName).getD "") then body else .undeclared
  let method := String.ofList (method.toList.flatMap Text.asciiCapitals)
  return { method, path := url.plainPath, headers, body }

end Request

inductive Content where
  | value (v : Value)
  | text (s : String)
  deriving Repr

structure Response where
  status : Nat
  content : Content
  challenge : Option String := none
  deriving Repr

namespace Response

def ok (v : Value) : Response :=
  { status := 200, content := .value v }

def refusal (status : Nat) (detail : Value) : Response :=
  { status, content := .value (.record [("detail", detail)]) }

def page : Response :=
  { status := 200, content := .text "" }

def moved : Response :=
  { status := 307, content := .text "" }

def notFound : Response :=
  refusal 404 (.str "Not Found")

def methodNotAllowed : Response :=
  refusal 405 (.str "Method Not Allowed")

def unauthorized : Response :=
  { refusal 401 (.str "Unauthorized") with challenge := some "Bearer" }

/-- The body of the request does not have the form that is wanted. What was given instead is looked
at once more, and a number that is not finite cannot be. -/
def unprocessable (problems : List Schema.Problem) : Except Fault Response :=
  if problems.all fun p => (Callback.sent? p.input).isSome then
    .ok (refusal 422 (.list (problems.map Schema.Problem.toValue)))
  else .error .notFinite

def seenBy (method : String) (r : Response) : Response :=
  if method == "HEAD" then { r with content := .text "" } else r

end Response

end FlowRunner.Http
