import MultiTarget.Controller
import MultiTarget.Json.Read

/-!
# `MultiTarget.Http.Client`: a client for a server given as a function

`Client.ofServer` is the client that the program runs with. It writes a
request, hands it to a server and decodes pages from JSON text.

It reads the URLs and the headers that a controller is reached under in
practice. What it does not know it refuses, such as hosts that are neither
names of ASCII characters nor addresses of four numbers (`Http.Url.host?`), so
another client may send what this one does not. A controller takes any client
and a catalog any way to fetch pages, so no result rests on this one.
-/

set_option autoImplicit false

namespace MultiTarget

/-- The page of a JSON text. Entries other than those of a page are skipped
unread. -/
def Page.parse? (text : String) : Option Page :=
  (Json.parseRecord? ["resources", "next_url"] text).bind Page.read?

namespace Client

/-- The failure of a client that has no status. -/
def failure {α : Type} (reason : String) : Except PlatformError α := .error ⟨none, reason⟩

/-- The client for a server. -/
def ofServer (server : Http.Server) : Client where
  send draft :=
    match draft.request? with
    | none => failure "builder error"
    | some request =>
      match server request with
      | .error reason => failure reason
      | .ok response => .ok response.allowed
  decode response :=
    match Page.parse? response.body with
    | some page => .ok page
    | none => failure "error decoding response body"

end Client

end MultiTarget
