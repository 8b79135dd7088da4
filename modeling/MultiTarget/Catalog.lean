import MultiTarget.Listing

/-!
# `MultiTarget.Catalog`: offerings from nested listings

A platform lists its offerings in pages, and each offering links to the
listing of its plans. `Catalog.offerings?` puts the two together, whatever
the pages are fetched through:

* a resource without a label is no offering, one without a link has no
  plans, and plan resources without name or guid are left out;
* the first page that fails ends everything, and there is no catalog.

Each listing keeps its own record of the pages it has seen, so a page may be
fetched again for another offering.

Specification 6 (paginated listings) and X.6.14. `offerings?` is
`service_offerings`, and `plans?` is `plans`.
-/

set_option autoImplicit false

namespace MultiTarget.Catalog

/-- The path of the listing of offerings. -/
def offeringsPath : String := "/v2/services"

/-! ### Resources -/

/-- The text under a key of the map under another key. A resource of any other
shape has none, and is no fault. -/
def textAt? (outer inner : String) (resource : Json) : Option String :=
  ((resource.field? outer).bind (Json.field? inner)).bind Json.text?

/-- The plan of a resource, which must have both name and guid. -/
def planOf? (resource : Json) : Option Plan := do
  return {
    name := ← textAt? "entity" "name" resource
    guid := ← textAt? "metadata" "guid" resource }

/-! ### Listings -/

section

variable (fetch : String → Except PlatformError Page) (limit : Nat)

/-- The plans of a listing. -/
def plans? (first : String) : Option (Retrieval (List Plan)) :=
  (Listing.follow? fetch limit first).map
    (Retrieval.map fun resources => resources.filterMap planOf?)

/-- The offering of a resource, if it has a label. Only then is its link
followed, so a resource without a label costs no page. -/
def offeringOf? (resource : Json) : Option (Retrieval (Option Offering)) :=
  match textAt? "entity" "label" resource, textAt? "entity" "service_plans_url" resource with
  | none, _ => some (.ofValue none)
  | some label, none => some (.ofValue (some ⟨label, []⟩))
  | some label, some url =>
    (plans? fetch limit url).map (Retrieval.map fun plans => some ⟨label, plans⟩)

/-- The offerings with their plans in the order listed. At most `limit` pages
of any one listing are fetched; `none` means that this was not enough. The
listing of offerings is complete before the first plan is asked for. -/
def offerings? : Option (Retrieval (List Offering)) := do
  let resources ← Listing.follow? fetch limit offeringsPath
  -- The pages of the plans follow in the order of the offerings, one listing after the other.
  resources.andThen? fun resources =>
    (Retrieval.forEach? (offeringOf? fetch limit) resources).map
      (Retrieval.map fun offerings => offerings.filterMap fun offering => offering)

end

end MultiTarget.Catalog
