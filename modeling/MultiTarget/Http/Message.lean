import MultiTarget.Http.Url
import MultiTarget.Json
import MultiTarget.Text.Blank

/-!
# `MultiTarget.Http.Message`: requests and responses

A `Draft` is a request as its sender writes it, with the URL and the header
as text. A `Request` is what arrives of it (`Draft.request?`), unless the URL
or the header cannot be written.

A server is a function from requests to responses; where it gives none
it says why. Responses with some statuses have no body whatever the
server sends.

Specification X.6.14 has requests made by a client that is not specified;
this is what a controller and a server tell each other through one.
-/

set_option autoImplicit false

namespace MultiTarget.Http

/-- What a request asks for. -/
inductive Method where
  | get
  | post
  deriving DecidableEq, Repr

/-- The name of a method. -/
def Method.name : Method → String
  | get => "GET"
  | post => "POST"

/-- A request as its sender writes it. -/
structure Draft where
  method : Method
  url : String
  /-- The value of the header that names the caller. -/
  authorization : String
  /-- The JSON value that is sent. -/
  body : Option Json
  deriving DecidableEq

/-- A request as it arrives. -/
structure Request where
  method : Method
  url : Url
  /-- The value of the header that names the caller. -/
  authorization : String
  /-- The JSON value that is sent. -/
  body : Option Json
  deriving DecidableEq

/-- The type of the body that is sent, if one is. -/
def Request.contentType (request : Request) : Option String :=
  request.body.map fun _ => "application/json"

/-- The value that a header has when it arrives. Controls may not be
sent, and blanks around a value are no part of it. -/
def headerValue? (text : String) : Option String :=
  if text.toList.all fun c => c == '\t' || (0x20 ≤ c.toNat && c.toNat != 0x7F) then
    some (String.ofList (Text.stripBoth (fun c => c == ' ' || c == '\t') text.toList))
  else none

/-- What arrives of a request, unless its URL or its header cannot be
written. -/
def Draft.request? (draft : Draft) : Option Request := do
  let url ← Url.parse? draft.url
  let authorization ← headerValue? draft.authorization
  return { method := draft.method, url, authorization, body := draft.body }

/-- A response. -/
structure Response where
  status : Nat
  body : String
  deriving DecidableEq, Repr

namespace Response

/-- The request was carried out. -/
def isSuccess (response : Response) : Bool := 200 ≤ response.status && response.status < 300

/-- The response with its body as far as the status allows one. -/
def allowed (response : Response) : Response :=
  if response.status = 204 ∨ response.status = 304 then { response with body := "" } else response

end Response

/-- A server, which answers or leaves a request without an answer for a
reason. -/
abbrev Server := Request → Except String Response

/-- A server that cannot be reached. -/
def unreachable : Server := fun request =>
  .error s!"error sending request for url ({request.url.render})"

end MultiTarget.Http
