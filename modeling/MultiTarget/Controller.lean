import MultiTarget.Catalog
import MultiTarget.Http.Message

/-!
# `MultiTarget.Controller`: a platform behind HTTP

A cloud controller answers requests for pages and for new services. A
`Controller` says what is asked for and what is made of the response: which
URL and which header a request has, that only a successful response is an
answer, and which error another one comes to.

Everything else is left to the `Client` that the controller is reached
through: reading the URL, refusing a header, connecting, and decoding a body.
The client is taken as given, so nothing here depends on how it does these.

`Controller.platform` is the platform that asks the controller.

Specification X.6.14. `urlOf` is `url`, `send` is `check` on what the client
received, `fetchPage` is `fetch_page`, and `create` is `create_service`.
-/

set_option autoImplicit false

namespace MultiTarget

/-- What a controller is reached through. A failure of a client has the
status and the words that the client gives. -/
structure Client where
  /-- Send a request and wait for the response. -/
  send : Http.Draft → Except PlatformError Http.Response
  /-- Decode the body of a response as a page. -/
  decode : Http.Response → Except PlatformError Page

/-- How a cloud controller is reached, and by whom. -/
structure Controller where
  client : Client
  /-- What URLs without a scheme are put after. -/
  baseUrl : String
  token : String
  /-- The space that services are created in. -/
  spaceGuid : String
  /-- How many pages of one listing are fetched at most. -/
  pageLimit : Nat

namespace Controller

/-- The path that services are created under. -/
def instancesPath : String := "/v2/service_instances?accepts_incomplete=true"

/-- A URL without slashes at its end. -/
def trimSlashes (url : String) : String :=
  String.ofList (url.toList.reverse.dropWhile (· == '/')).reverse

/-! ### Requests -/

/-- The full URL of a path. A link that is a URL already is taken as it is. -/
def urlOf (controller : Controller) (path : String) : String :=
  if path.startsWith "http://" || path.startsWith "https://" then path
  else controller.baseUrl ++ path

/-- The request for a path. The token goes with every one, wherever its URL
leads. -/
def draft (controller : Controller) (method : Http.Method) (path : String)
    (body : Option Json) : Http.Draft where
  method
  url := controller.urlOf path
  authorization := "Bearer " ++ controller.token
  body

/-- Send a request. Only a successful response is an answer; any other is an
error with its status and its body as the detail. -/
def send (controller : Controller) (draft : Http.Draft) : Except PlatformError Http.Response := do
  let response ← controller.client.send draft
  if response.isSuccess then return response
  else throw ⟨some response.status, response.body⟩

/-! ### Pages -/

/-- The request for a page. -/
def pageDraft (controller : Controller) (path : String) : Http.Draft :=
  controller.draft .get path none

/-- Fetch one page. A response without success is never decoded. -/
def fetchPage (controller : Controller) (path : String) : Except PlatformError Page := do
  let response ← controller.send (controller.pageDraft path)
  controller.client.decode response

/-- The offerings with their plans in the order listed. -/
def offerings? (controller : Controller) : Option (Retrieval (List Offering)) :=
  Catalog.offerings? controller.fetchPage controller.pageLimit

/-! ### Creation -/

/-- What a controller is told about a service to create. The offering is not
among it: the plan alone tells what is created. -/
def creationBody (controller : Controller) (service : Service) (plan : Plan) : Json := .obj <|
  Json.entry "name" (.str service.name) ++
  Json.entry "parameters" (.ofMap service.credentials) ++
  Json.entry "service_plan_guid" (.str plan.guid) ++
  Json.entry "space_guid" (.str controller.spaceGuid) ++
  Json.entry "tags" (.ofStrings service.tags)

/-- The request that creates a service. -/
def creationDraft (controller : Controller) (service : Service) (plan : Plan) : Http.Draft :=
  controller.draft .post instancesPath (some (controller.creationBody service plan))

/-- Create a service. -/
def create (controller : Controller) (service : Service) (plan : Plan) :
    Except PlatformError Unit := do
  let _ ← controller.send (controller.creationDraft service plan)

/-- The platform of a controller. It keeps the requests that the client was
given and ends without an outcome if the page limit was too small. -/
def platform (controller : Controller) : Platform (StateT (List Http.Draft) Option) where
  offerings given := do
    let retrieval ← controller.offerings?
    return (retrieval.result, given ++ retrieval.fetched.map controller.pageDraft)
  create service _ plan given :=
    some (controller.create service plan, given ++ [controller.creationDraft service plan])

end Controller

end MultiTarget
