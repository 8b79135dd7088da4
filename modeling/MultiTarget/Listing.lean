import MultiTarget.Json.Entry
import MultiTarget.Platform

/-!
# `MultiTarget.Listing`: listings in pages

A page of a listing holds some of its resources and may link to the next
page. `Listing.follow?` goes from page to page until there is no link,
until the link leads to a page that was fetched before, or until a page
fails. Pages may go on for ever, so it is told how many to fetch at
most; `none` means that this was not enough.

Specification 6 (the `resources` and `next_url` of a listing). `follow?` is
`collect_pages`.
-/

set_option autoImplicit false

namespace MultiTarget

/-- One page of a listing. -/
structure Page where
  resources : List Json
  nextUrl : Option String
  deriving DecidableEq

namespace Page

/-- The link to the next page. An empty link is none. -/
def next? (page : Page) : Option String := page.nextUrl.filter (!·.isEmpty)

/-- Read a page. Both fields may be left out: such a page is empty, or the last
one. -/
def read? {σ : Type} [Source σ] (tree : σ) : Option Page := do
  let r ← Record.read? (Record.plainFields ["resources", "next_url"]) tree
  return {
    resources := ← r.orElse "resources" (Source.list? Source.value?) []
    nextUrl := ← r.optional "next_url" Source.text? }

/-- A page as JSON. -/
def toJson (page : Page) : Json := .obj <|
  Json.entry "resources" (.arr page.resources) ++
  Json.entry "next_url" (.ofString? page.nextUrl)

end Page

/-- What was fetched and what came of it. -/
structure Retrieval (α : Type) where
  /-- The URLs in the order fetched. -/
  fetched : List String
  /-- The outcome, or why a page failed. -/
  result : Except PlatformError α

namespace Retrieval

variable {α β : Type}

/-- An outcome that nothing was fetched for. -/
def ofValue (value : α) : Retrieval α := ⟨[], .ok value⟩

/-- Another view of the value. -/
def map (f : α → β) (retrieval : Retrieval α) : Retrieval β :=
  ⟨retrieval.fetched, retrieval.result.map f⟩

/-- URLs fetched before. -/
def after (fetched : List String) (retrieval : Retrieval α) : Retrieval α :=
  ⟨fetched ++ retrieval.fetched, retrieval.result⟩

/-- Go on with the value; after a failure nothing more is fetched, and what was
fetched before it stays on record. -/
def andThen? (first : Retrieval α) (next : α → Option (Retrieval β)) : Option (Retrieval β) :=
  match first.result with
  | .error error => some ⟨first.fetched, .error error⟩
  | .ok value => (next value).map (after first.fetched)

/-- Retrievals for the items of a list, in order, up to the first
failure. -/
def forEach? (run : α → Option (Retrieval β)) : List α → Option (Retrieval (List β))
  | [] => some (.ofValue [])
  | item :: rest => do
    let first ← run item
    first.andThen? fun value => (forEach? run rest).map (map (value :: ·))

end Retrieval

namespace Listing

/-- The listing that goes on from a URL, given the URLs fetched before. A URL
seen before ends the listing as if there were no link, which is no failure: the
listing is what the pages before it hold. -/
def followFrom? (fetch : String → Except PlatformError Page) :
    (limit : Nat) → (seen : List String) → (url : String) → Option (Retrieval (List Json))
  | limit, seen, url =>
    -- Before the limit: a link back costs nothing, so a listing that ends in one fits.
    if url ∈ seen then some (.ofValue [])
    else
      match limit with
      -- Neither a result nor a failure of the platform, and never mistaken for either.
      | 0 => none
      | limit + 1 =>
        match fetch url with
        | .error error => some ⟨[url], .error error⟩
        | .ok page =>
          match page.next? with
          | none => some ⟨[url], .ok page.resources⟩
          | some next =>
            (followFrom? fetch limit (url :: seen) next).map fun rest =>
              (rest.map (page.resources ++ ·)).after [url]

/-- The resources of a listing from its first page on, in at most `limit`
pages. -/
def follow? (fetch : String → Except PlatformError Page) (limit : Nat) (first : String) :
    Option (Retrieval (List Json)) :=
  followFrom? fetch limit [] first

end Listing

end MultiTarget
