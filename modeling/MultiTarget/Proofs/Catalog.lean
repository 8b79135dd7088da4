import MultiTarget.Controller
import MultiTarget.Proofs.Pagination
import MultiTarget.Proofs.Support.Maps

/-!
# `MultiTarget.Proofs.Catalog`: a catalog from its pages

`service_offerings` collects the pages of one listing, and for the resources on
them the pages of other listings (specification 6, the paginated listings, and
X.6.14). A catalog thus takes many pages: those of the offerings, and then for
one offering after the other those of its plans. `Retrieval.tour` goes to a
list of URLs and has a value if all pages are there; the first page that fails
is the last one fetched, and its error is all that there is (`tour_of_all`,
`tour_of_error`).

A retrieval within a limit may not end. `Retrieval.Settles` tells when it does,
and with what at most. Tours that are settled are put together as retrievals are
(`Settles.andThen?`, `Settles.forEach?`). A listing is a tour of its run
(`Listing.settles_follow?`), and so the catalog is a tour of the run of the
offerings and behind it the runs of their plans (`settles_offerings?`).
`offerings?_assembled` tells what it has by the resources on these pages.

Pages are fetched by a function that is taken as given. Servers, clients and
the text of pages stand behind it, and no statement here looks there.
-/

set_option autoImplicit false

namespace MultiTarget

/-! ### Tours -/

namespace Retrieval

variable {α β : Type} {fetch : String → Except PlatformError Page} {urls : List String}

/-- Go to some URLs in order, and then have a value. A tour knows beforehand
where it goes, so it needs no record of what was seen and no limit; the nested
retrievals of a catalog come down to one of these. -/
def tour (fetch : String → Except PlatformError Page) (value : α) : List String → Retrieval α
  | [] => ofValue value
  | url :: rest =>
    match fetch url with
    | .error error => ⟨[url], .error error⟩
    | .ok _ => (tour fetch value rest).after [url]

/-- A page that is there is only noted: the value does not depend on it, since
it was made from all the pages beforehand. -/
theorem tour_cons_of_ok {url : String} {page : Page} (hpage : fetch url = .ok page) (value : α)
    (rest : List String) :
    tour fetch value (url :: rest) = (tour fetch value rest).after [url] := by
  rw [tour, hpage]

/-- A page that fails ends the tour. Neither the value nor what would have come
behind it is in the outcome. -/
theorem tour_cons_of_error {url : String} {error : PlatformError}
    (herror : fetch url = .error error) (value : α) (rest : List String) :
    tour fetch value (url :: rest) = ⟨[url], .error error⟩ := by
  rw [tour, herror]

/-- If all pages are there, they are fetched in order, and there is the
value. -/
theorem tour_of_all (hall : ∀ url ∈ urls, ∃ page, fetch url = .ok page) (value : α) :
    tour fetch value urls = ⟨urls, .ok value⟩ := by
  induction urls with
  | nil => rfl
  | cons url rest ih =>
      obtain ⟨page, hpage⟩ := hall url List.mem_cons_self
      rw [tour_cons_of_ok hpage, ih fun other hother => hall other (List.mem_cons_of_mem _ hother)]
      rfl

/-- The first page that fails is the last one fetched. That the pages before it
are there is what makes it the first. -/
theorem tour_of_error {before after : List String} {url : String} {error : PlatformError}
    (hbefore : ∀ other ∈ before, ∃ page, fetch other = .ok page)
    (herror : fetch url = .error error) (value : α) :
    tour fetch value (before ++ url :: after) = ⟨before ++ [url], .error error⟩ := by
  -- The induction is on what is fetched before the failure.
  induction before with
  | nil => exact tour_cons_of_error herror value after
  | cons first rest ih =>
      obtain ⟨page, hpage⟩ := hbefore first List.mem_cons_self
      rw [List.cons_append, tour_cons_of_ok hpage,
        ih fun other hother => hbefore other (List.mem_cons_of_mem _ hother)]
      rfl

/-- Either all pages are there or one of them is the first that fails. The
pages are a function of their URLs, so which case holds is known before
anything is fetched. -/
theorem all_or_first (fetch : String → Except PlatformError Page) (urls : List String) :
    (∀ url ∈ urls, ∃ page, fetch url = .ok page) ∨
    ∃ before url after error, urls = before ++ url :: after ∧
      (∀ other ∈ before, ∃ page, fetch other = .ok page) ∧ fetch url = .error error := by
  -- The traversal of all URLs meets the first failure, if there is one.
  cases h : urls.mapM fetch with
  | ok pages => exact .inl (Outcome.exists_mapM_iff.1 ⟨pages, h⟩)
  | error error =>
      obtain ⟨before, url, after, hurls, hbefore, hurl⟩ := Outcome.mapM_eq_error_iff.1 h
      exact .inr ⟨before, url, after, error, hurls, hbefore, hurl⟩

/-- A tour has a value exactly if all pages are there. This is the half of the
result on catalogs that says when there is one. -/
theorem exists_tour_eq_ok_iff (value : α) :
    (∃ y, (tour fetch value urls).result = .ok y) ↔
      ∀ url ∈ urls, ∃ page, fetch url = .ok page := by
  rcases all_or_first fetch urls with hall | ⟨before, url, after, error, rfl, hbefore, herror⟩
  · rw [tour_of_all hall]
    exact ⟨fun _ => hall, fun _ => ⟨value, rfl⟩⟩
  · rw [tour_of_error hbefore herror]
    constructor
    · rintro ⟨y, hy⟩
      cases hy
    · intro hall
      obtain ⟨page, hpage⟩ := hall url (by simp)
      cases herror.symm.trans hpage

/-- Another view of the value is a tour to the same URLs. A retrieval that only
reshapes what another one found is still a tour by this. -/
theorem map_tour (f : α → β) (value : α) (urls : List String) :
    (tour fetch value urls).map f = tour fetch (f value) urls := by
  induction urls with
  | nil => rfl
  | cons url rest ih =>
      cases hpage : fetch url with
      | error error =>
          rw [tour_cons_of_error hpage, tour_cons_of_error hpage]
          rfl
      | ok page =>
          rw [tour_cons_of_ok hpage, tour_cons_of_ok hpage, ← ih]
          rfl

/-- What was fetched before a sequence of two retrievals was fetched before the
first one. So URLs can be taken off the front of a sequence, which is how the
induction for `Settles.andThen?` goes. -/
theorem andThen?_after (fetched : List String) (first : Retrieval α)
    (next : α → Option (Retrieval β)) :
    (first.after fetched).andThen? next = (first.andThen? next).map (after fetched) := by
  obtain ⟨urls, result⟩ := first
  cases result with
  | error error => rfl
  | ok value =>
      show (next value).map (after (fetched ++ urls))
        = ((next value).map (after urls)).map (after fetched)
      cases next value with
      | none => rfl
      | some second => simp [after]

/-! ### Tours within a limit -/

/-- If the limit is enough, a retrieval within it ends as expected; otherwise
it may not end, but it ends in no other way. The second half is needed since a
limit that is not enough for the whole may still be enough up to the page that
fails. -/
structure Settles (enough : Prop) (within : Option (Retrieval α)) (expected : Retrieval α) :
    Prop where
  ends : enough → within = some expected
  agrees : ∀ retrieval, within = some retrieval → retrieval = expected

variable {enough : Prop}

/-- A retrieval that ends as expected under every limit settles, whatever is
enough. These are the cases in which nothing is left to fetch. -/
theorem Settles.of_eq {within : Option (Retrieval α)} {expected : Retrieval α}
    (h : within = some expected) : Settles enough within expected :=
  ⟨fun _ => h, fun _ hretrieval => Option.some.inj (hretrieval.symm.trans h)⟩

/-- Another view of what is retrieved settles with it, since a view fetches
nothing. -/
theorem Settles.map {within : Option (Retrieval α)} {expected : Retrieval α}
    (h : Settles enough within expected) (f : Retrieval α → Retrieval β) :
    Settles enough (within.map f) (f expected) where
  ends henough := by rw [h.ends henough, Option.map_some]
  agrees retrieval hretrieval := by
    obtain ⟨found, hfound, rfl⟩ := Option.map_eq_some_iff.1 hretrieval
    rw [h.agrees found hfound]

/-- A retrieval that is made of another one. Only what the first one ends with
matters for the second, because a first one that ends at all ends as expected.
-/
theorem Settles.bind {within : Option (Retrieval α)} {expected : Retrieval α}
    (h : Settles enough within expected) {next : Retrieval α → Option (Retrieval β)}
    {later : Retrieval β} (hnext : Settles enough (next expected) later) :
    Settles enough (within >>= next) later where
  ends henough := by
    rw [h.ends henough]
    exact hnext.ends henough
  agrees retrieval hretrieval := by
    obtain ⟨found, hfound, hretrieval⟩ := Option.bind_eq_some_iff.1 hretrieval
    rw [h.agrees found hfound] at hretrieval
    exact hnext.agrees retrieval hretrieval

/-- One tour after the other is the tour to the URLs of both. If the first one
fails, the second one is never asked for, and the longer tour stops at the same
page. -/
theorem Settles.andThen? {value : α} {later : β} {next : α → Option (Retrieval β)}
    {others : List String} (hnext : Settles enough (next value) (tour fetch later others)) :
    Settles enough ((tour fetch value urls).andThen? next)
      (tour fetch later (urls ++ others)) := by
  -- On the URLs of the first tour: one that fails ends both sides alike.
  induction urls with
  | nil => exact hnext.map (after [])
  | cons url rest ih =>
      cases hpage : fetch url with
      | error error =>
          rw [List.cons_append, tour_cons_of_error hpage, tour_cons_of_error hpage]
          exact .of_eq rfl
      | ok page =>
          rw [List.cons_append, tour_cons_of_ok hpage, tour_cons_of_ok hpage, andThen?_after]
          exact ih.map (after [url])

/-- A tour for every item of a list is one tour to the URLs of all items. The
hypothesis is about the items of the list only, since only they are known to
have a tour. -/
theorem Settles.forEach? {run : α → Option (Retrieval β)} {value : α → β}
    {urls : α → List String} {items : List α}
    (h : ∀ item ∈ items, Settles enough (run item) (tour fetch (value item) (urls item))) :
    Settles enough (forEach? run items)
      (tour fetch (items.map value) (items.flatMap urls)) := by
  induction items with
  | nil => exact .of_eq rfl
  | cons item rest ih =>
      -- What follows the first item is the tour of the others, with its value added.
      have hrest := (ih fun other hother => h other (List.mem_cons_of_mem _ hother)).map
        (Retrieval.map (value item :: ·))
      rw [map_tour] at hrest
      rw [Retrieval.forEach?, List.flatMap_cons]
      refine (h item List.mem_cons_self).bind (Settles.andThen? ?_)
      exact hrest

end Retrieval

/-! ### Listings -/

namespace Listing

variable {fetch : String → Except PlatformError Page} {first : String} {urls : List String}

/-- The resources of a page, none if it fails. A page that fails leaves no
catalog, so what it is counted with here does not matter. -/
def resourcesAt (fetch : String → Except PlatformError Page) (url : String) : List Json :=
  match fetch url with
  | .ok page => page.resources
  | .error _ => []

/-- The resources of the pages that are there, in order. Pages that fail have
none here; where they matter the listing fails as a whole. -/
def listed (fetch : String → Except PlatformError Page) (urls : List String) : List Json :=
  urls.flatMap (resourcesAt fetch)

/-- A resource is listed if it is on one of the pages. The bound on the
listings of plans is about resources on pages, and the way through the pages is
about listed ones. -/
theorem mem_listed_iff {resource : Json} : resource ∈ listed fetch urls ↔
    ∃ url ∈ urls, ∃ page, fetch url = .ok page ∧ resource ∈ page.resources := by
  have hat : ∀ url, resource ∈ resourcesAt fetch url ↔
      ∃ page, fetch url = .ok page ∧ resource ∈ page.resources := by
    intro url
    unfold resourcesAt
    cases fetch url <;> simp
  simp only [listed, List.mem_flatMap, hat]

/-- The contents of pages that are all there, without the possible failure.
`contents` stops at a failure and `listed` goes on, so they agree only then. -/
theorem contents_eq_listed (hall : ∀ url ∈ urls, ∃ page, fetch url = .ok page) :
    contents fetch urls = .ok (listed fetch urls) := by
  induction urls with
  | nil => rfl
  | cons url rest ih =>
      obtain ⟨page, hpage⟩ := hall url List.mem_cons_self
      have hresources : resourcesAt fetch url = page.resources := by
        rw [resourcesAt, hpage]
      rw [contents_of_ok hpage, ih fun other hother => hall other (List.mem_cons_of_mem _ hother)]
      unfold listed
      rw [List.flatMap_cons, hresources]
      rfl

/-- A listing is a tour of its run, if the limit is enough for the run. The run
ends at the first page that fails, so in that case too there is nothing behind
the last URL. -/
theorem settles_follow? (h : Run fetch first urls) {limit : Nat} {enough : Prop}
    (hlimit : enough → urls.length ≤ limit) :
    Retrieval.Settles enough (follow? fetch limit first)
      (.tour fetch (listed fetch urls) urls) := by
  have htour : Retrieval.tour fetch (listed fetch urls) urls = ⟨urls, contents fetch urls⟩ := by
    -- A failure on the run stands at its end, so the tour of the run fails with it.
    rcases Retrieval.all_or_first fetch urls with
      hall | ⟨before, url, after, error, rfl, hbefore, herror⟩
    · rw [Retrieval.tour_of_all hall, contents_eq_listed hall]
    · obtain rfl := h.after_eq_nil_of_error herror
      rw [Retrieval.tour_of_error hbefore herror, (h.of_error (by simp) herror).2]
  rw [follow?_of_run h, htour]
  constructor
  · intro henough
    rw [if_pos (hlimit henough)]
  · intro retrieval hretrieval
    split at hretrieval
    · exact (Option.some.inj hretrieval).symm
    · cases hretrieval

end Listing

/-! ### Offerings -/

/-- Each item for which there is a value has this value, in order. Both sides
leave out the same items, so offerings and plans stay aligned with their
resources. -/
theorem forall₂_filterMap {α β : Type} (f : α → Option β) (items : List α) :
    List.Forall₂ (fun x y => f x = some y) (items.filter fun x => (f x).isSome)
      (items.filterMap f) := by
  -- An item without a value is left out on both sides.
  induction items with
  | nil => exact .nil
  | cons x rest ih =>
      cases hx : f x with
      | none => simpa [List.filter_cons, List.filterMap_cons, hx] using ih
      | some y => simpa [List.filter_cons, List.filterMap_cons, hx] using ih

namespace Catalog

open Listing (Run reached listed)
open Retrieval (Settles)

variable {fetch : String → Except PlatformError Page} {resource : Json} {first : String}
  {urls services : List String} {plans : Json → List String} {limit : Nat}

/-! #### Resources -/

/-- There is a text under a key of the map under another key. This says where
the text stands, without the steps by which it is read. -/
def TextAt (outer inner : String) (resource : Json) (text : String) : Prop :=
  ∃ entries fields, resource = .obj entries ∧ Entries.lookup outer entries = some (.obj fields) ∧
    Entries.lookup inner fields = some (.str text)

/-- The text that is read is the one that stands there: nothing but two nested
maps and a text at the end of the way is read, and in particular no number or
null. -/
theorem textAt?_eq_some_iff {outer inner text : String} :
    textAt? outer inner resource = some text ↔ TextAt outer inner resource text := by
  have hfield : ∀ (key : String) (json value : Json), json.field? key = some value ↔
      ∃ entries, json = .obj entries ∧ Entries.lookup key entries = some value := by
    intro key json value
    cases json <;> simp [Json.field?]
  have htext : ∀ json : Json, json.text? = some text ↔ json = .str text := by
    intro json
    cases json <;> simp [Json.text?]
  unfold textAt? TextAt
  simp only [Option.bind_eq_some_iff, hfield, htext]
  constructor
  · rintro ⟨_, ⟨_, ⟨entries, rfl, houter⟩, fields, rfl, hinner⟩, rfl⟩
    exact ⟨entries, fields, rfl, houter, hinner⟩
  · rintro ⟨entries, fields, rfl, houter, hinner⟩
    exact ⟨_, ⟨_, ⟨entries, rfl, houter⟩, fields, rfl, hinner⟩, rfl⟩

/-- A resource that has a label, which makes it an offering. One without is
left out and no error. -/
def isOffering (resource : Json) : Bool := (textAt? "entity" "label" resource).isSome

/-- A resource that has a name and a guid, which make it a plan. One that lacks
either is left out and no error. -/
def isPlan (resource : Json) : Bool :=
  (textAt? "entity" "name" resource).isSome && (textAt? "metadata" "guid" resource).isSome

/-- The first URL of the plans of an offering. A resource without a label is no
offering, so its link is not followed even if it has one. -/
def PlanListing (resource : Json) (url : String) : Prop :=
  isOffering resource = true ∧ TextAt "entity" "service_plans_url" resource url

/-- A plan is what its resource says: it has the name and the guid that stand
there. Nothing else of a plan is kept. -/
def DescribesPlan (resource : Json) (plan : Plan) : Prop :=
  TextAt "entity" "name" resource plan.name ∧ TextAt "metadata" "guid" resource plan.guid

/-- The plan of a resource is the one that the resource describes, so that at
most one plan comes of it. -/
theorem planOf?_eq_some_iff {plan : Plan} :
    planOf? resource = some plan ↔ DescribesPlan resource plan := by
  unfold planOf? DescribesPlan
  simp only [Option.bind_eq_bind, Option.bind_eq_some_iff, textAt?_eq_some_iff]
  constructor
  · rintro ⟨name, hname, guid, hguid, hplan⟩
    obtain rfl := Option.some.inj hplan
    exact ⟨hname, hguid⟩
  · rintro ⟨hname, hguid⟩
    exact ⟨plan.name, hname, plan.guid, hguid, rfl⟩

/-- A resource has a plan exactly if it has both texts. The order in which they
are looked for does not matter. -/
theorem isSome_planOf? (resource : Json) : (planOf? resource).isSome = isPlan resource := by
  unfold planOf? isPlan
  cases textAt? "entity" "name" resource with
  | none => rfl
  | some name => cases textAt? "metadata" "guid" resource <;> rfl

/-- An offering has the label of its resource and the plans on the pages of
some URLs: one for every resource there that is a plan, in order. -/
structure Describes (fetch : String → Except PlatformError Page) (urls : List String)
    (resource : Json) (offering : Offering) : Prop where
  label : TextAt "entity" "label" resource offering.label
  plans : List.Forall₂ DescribesPlan ((listed fetch urls).filter isPlan) offering.plans

/-! #### The way through the pages -/

/-- All listings reach finitely many URLs: that of the offerings, and those of
plans that are linked to on its pages. Listings that no page links to may go on
for ever. -/
structure Bounded (fetch : String → Except PlatformError Page) : Prop where
  services : (reached fetch offeringsPath).Finite
  plans : ∀ url ∈ reached fetch offeringsPath, ∀ page,
    fetch url = .ok page → ∀ resource ∈ page.resources, ∀ first,
    PlanListing resource first → (reached fetch first).Finite

/-- The URLs of the plans of a resource: the run of their listing, and none
without one. -/
inductive PlanPages (fetch : String → Except PlatformError Page) (resource : Json) :
    List String → Prop where
  | none (h : ∀ url, ¬ PlanListing resource url) : PlanPages fetch resource []
  | run {first : String} {urls : List String} (h : PlanListing resource first)
      (hrun : Run fetch first urls) : PlanPages fetch resource urls

/-- The URLs of the offerings and those of the plans of each of them. Every
listing has a run of its own, as each keeps its own record of the pages
seen. -/
structure Itinerary (fetch : String → Except PlatformError Page) (services : List String)
    (plans : Json → List String) : Prop where
  run : Run fetch offeringsPath services
  planPages : ∀ resource ∈ listed fetch services, PlanPages fetch resource (plans resource)

/-- All URLs of an itinerary in order. The offerings come first: all their
pages are fetched before any plans are. -/
def itinerary (fetch : String → Except PlatformError Page) (services : List String)
    (plans : Json → List String) : List String :=
  services ++ (listed fetch services).flatMap plans

/-- There is a way through the pages if all listings are bounded. The runs of
the plans are chosen all at once, for which every listed resource needs one. -/
theorem Bounded.exists_itinerary (h : Bounded fetch) :
    ∃ services plans, Itinerary fetch services plans := by
  obtain ⟨services, hservices⟩ := Listing.exists_run h.services
  have hpages : ∀ resource ∈ listed fetch services,
      ∃ urls, PlanPages fetch resource urls := by
    intro resource hresource
    by_cases hlisting : ∃ first, PlanListing resource first
    · obtain ⟨first, hfirst⟩ := hlisting
      obtain ⟨url, hurl, page, hpage, hmem⟩ := Listing.mem_listed_iff.1 hresource
      obtain ⟨urls, hrun⟩ := Listing.exists_run
        (h.plans url (hservices.mem_reached hurl) page hpage resource hmem first hfirst)
      exact ⟨urls, .run hfirst hrun⟩
    · exact ⟨[], .none fun url hurl => hlisting ⟨url, hurl⟩⟩
  -- A function of all resources; what it is elsewhere plays no part.
  choose! plans hplans using hpages
  exact ⟨services, plans, hservices, hplans⟩

/-! #### The catalog -/

/-- The offering of a resource with the plans on the pages of some URLs. The
URLs are those that the listing of its plans has fetched. -/
def offeringAt (fetch : String → Except PlatformError Page) (urls : List String)
    (resource : Json) : Option Offering :=
  (textAt? "entity" "label" resource).map fun label =>
    ⟨label, (listed fetch urls).filterMap planOf?⟩

/-- The offerings of all resources. What has no label is left out here, after
its place on the way was passed without fetching anything. -/
def offeringsAt (fetch : String → Except PlatformError Page) (services : List String)
    (plans : Json → List String) : List Offering :=
  (listed fetch services).filterMap fun resource => offeringAt fetch (plans resource) resource

/-- The plans of a listing are a tour of its run. The limit has to be enough
for this run only. -/
theorem settles_plans? {enough : Prop} (h : Run fetch first urls)
    (hlimit : enough → urls.length ≤ limit) :
    Settles enough (plans? fetch limit first)
      (.tour fetch ((listed fetch urls).filterMap planOf?) urls) := by
  have hlisting : Settles enough (Listing.follow? fetch limit first)
      (.tour fetch (listed fetch urls) urls) := Listing.settles_follow? h hlimit
  rw [← Retrieval.map_tour]
  exact hlisting.map _

/-- An offering is a tour of the pages of its plans. Without a label or without
a link there are no pages, and both readings of the resource say so. -/
theorem settles_offeringOf? {enough : Prop} (h : PlanPages fetch resource urls)
    (hlimit : enough → urls.length ≤ limit) :
    Settles enough (offeringOf? fetch limit resource)
      (.tour fetch (offeringAt fetch urls resource) urls) := by
  unfold offeringOf? offeringAt
  -- The cases of the definition; in each of them one way to have pages remains.
  cases hlabel : textAt? "entity" "label" resource with
  | none =>
      cases h with
      | none => exact .of_eq rfl
      | run hlisting => simp [PlanListing, isOffering, hlabel] at hlisting
  | some label =>
      cases hlink : textAt? "entity" "service_plans_url" resource with
      | none =>
          cases h with
          | none => exact .of_eq rfl
          | run hlisting => cases hlink.symm.trans (textAt?_eq_some_iff.2 hlisting.2)
      | some url =>
          have hlisting : PlanListing resource url :=
            ⟨by simp [isOffering, hlabel], textAt?_eq_some_iff.1 hlink⟩
          cases h with
          | none hnone => exact absurd hlisting (hnone url)
          | run hfirst hrun =>
              obtain rfl := Option.some.inj (hlink.symm.trans (textAt?_eq_some_iff.2 hfirst.2))
              have hplans := (settles_plans? hrun hlimit).map
                (Retrieval.map fun plans => some (⟨label, plans⟩ : Offering))
              rw [Retrieval.map_tour] at hplans
              exact hplans

/-- The catalog is a tour of all pages. A limit that is enough for the whole
way is enough for every listing on it, though less would do. -/
theorem settles_offerings? (h : Itinerary fetch services plans) (limit : Nat) :
    Settles ((itinerary fetch services plans).length ≤ limit)
      (offerings? fetch limit)
      (.tour fetch (offeringsAt fetch services plans) (itinerary fetch services plans)) := by
  have hlisting : Settles ((itinerary fetch services plans).length ≤ limit)
      (Listing.follow? fetch limit offeringsPath)
      (.tour fetch (listed fetch services) services) := by
    -- Its run is the beginning of the way.
    refine Listing.settles_follow? h.run fun hlimit => ?_
    rw [itinerary, List.length_append] at hlimit
    exact (Nat.le_add_right _ _).trans hlimit
  have hofferings : ∀ resource ∈ listed fetch services,
      Settles ((itinerary fetch services plans).length ≤ limit)
        (offeringOf? fetch limit resource)
        (.tour fetch (offeringAt fetch (plans resource) resource) (plans resource)) := by
    intro resource hresource
    refine settles_offeringOf? (h.planPages resource hresource) fun hlimit => ?_
    -- The plans of one resource are a part of the way, so the limit is enough for them.
    have hlength : (plans resource).length ≤ ((listed fetch services).flatMap plans).length :=
      (List.sublist_flatten_of_mem (List.mem_map_of_mem hresource)).length_le
    rw [itinerary, List.length_append] at hlimit
    omega
  have hcatalog := (Settles.forEach? hofferings).map
    (Retrieval.map fun offerings => offerings.filterMap fun offering => offering)
  rw [Retrieval.map_tour, List.filterMap_map] at hcatalog
  refine hlisting.bind (Settles.andThen? ?_)
  exact hcatalog

/-- The offering of a resource is described by the pages of its plans. This is
the half about one offering; a catalog is a list of such. -/
theorem describes_of_offeringAt {offering : Offering}
    (h : offeringAt fetch urls resource = some offering) :
    Describes fetch urls resource offering := by
  obtain ⟨label, hlabel, rfl⟩ := Option.map_eq_some_iff.1 h
  -- The tests on resources are stated by what can be read from them.
  have hplans := forall₂_filterMap planOf? (listed fetch urls)
  simp only [isSome_planOf?, planOf?_eq_some_iff] at hplans
  exact ⟨textAt?_eq_some_iff.1 hlabel, hplans⟩

/-- The catalog has one offering for each resource that is one, in order. The
filter on the left leaves out what has no label, and so does the catalog. -/
theorem describes_offeringsAt (fetch : String → Except PlatformError Page) (services : List String)
    (plans : Json → List String) :
    List.Forall₂ (fun resource offering => Describes fetch (plans resource) resource offering)
      ((listed fetch services).filter isOffering)
      (offeringsAt fetch services plans) := by
  have hsome : ∀ resource, (offeringAt fetch (plans resource) resource).isSome
      = isOffering resource := fun resource => Option.isSome_map
  have hofferings := forall₂_filterMap
    (fun resource => offeringAt fetch (plans resource) resource)
    (listed fetch services)
  simp only [hsome] at hofferings
  exact hofferings.imp fun _ _ => describes_of_offeringAt

/-- **A catalog is put together from all its pages.** If all listings reach
finitely many URLs, there is a way through the pages: the run of the offerings,
and behind it for one resource after the other the run of the plans that it
links to. With enough pages allowed for a listing there is one outcome, and
with fewer there is no other. It is a catalog exactly if all pages on this way
are there. A catalog has one offering for every resource with a label, in
order, with the plans on its pages, in order; otherwise nothing is fetched
after the first page that fails, and its error is the outcome.

How a page is fetched plays no part, so this holds for every server and every
client that may stand before it. Without the bound there may be no run, and the
catalog would go on for ever. -/
theorem offerings?_assembled (fetch : String → Except PlatformError Page) (h : Bounded fetch) :
    ∃ services plans retrieval, Itinerary fetch services plans ∧
      (∀ limit, (itinerary fetch services plans).length ≤ limit →
        offerings? fetch limit = some retrieval) ∧
      (∀ limit outcome, offerings? fetch limit = some outcome → outcome = retrieval) ∧
      ((∃ offerings, retrieval.result = .ok offerings) ↔
        ∀ url ∈ itinerary fetch services plans, ∃ page, fetch url = .ok page) ∧
      (∀ offerings, retrieval.result = .ok offerings →
        retrieval.fetched = itinerary fetch services plans ∧
        List.Forall₂ (fun resource offering => Describes fetch (plans resource) resource offering)
          ((listed fetch services).filter isOffering) offerings) ∧
      ∀ before url after error, itinerary fetch services plans = before ++ url :: after →
        (∀ other ∈ before, ∃ page, fetch other = .ok page) → fetch url = .error error →
        retrieval = ⟨before ++ [url], .error error⟩ := by
  obtain ⟨services, plans, hitinerary⟩ := h.exists_itinerary
  -- The tour of the way is the outcome; each part is what is known of tours.
  refine ⟨services, plans, .tour fetch (offeringsAt fetch services plans)
    (itinerary fetch services plans), hitinerary,
    fun limit => (settles_offerings? hitinerary limit).ends,
    fun limit => (settles_offerings? hitinerary limit).agrees,
    Retrieval.exists_tour_eq_ok_iff _, fun offerings hofferings => ?_,
    fun before url after error hsplit hbefore herror => ?_⟩
  · have hall := (Retrieval.exists_tour_eq_ok_iff _).1 ⟨offerings, hofferings⟩
    rw [Retrieval.tour_of_all hall] at hofferings ⊢
    obtain rfl := Except.ok.inj hofferings
    exact ⟨rfl, describes_offeringsAt fetch services plans⟩
  · rw [hsplit]
    exact Retrieval.tour_of_error hbefore herror _

/-- Two pages of offerings, the second of which links to itself, and the page
of plans that the first one links to. On two of them there is a resource
without anything. -/
def archivePages : List (String × Page) :=
  [("/v2/services",
      ⟨[.obj [("entity", .obj [("label", .str "files"), ("service_plans_url", .str "/p")])],
          .obj []], some "/2"⟩),
    ("/2", ⟨[.obj [("entity", .obj [("label", .str "mail")])]], some "/2"⟩),
    ("/p",
      ⟨[.obj [("entity", .obj [("name", .str "small")]), ("metadata", .obj [("guid", .str "1")])],
          .obj []], none⟩)]

/-- The pages as they are fetched. Others are not found. -/
def archive (url : String) : Except PlatformError Page :=
  match Entries.lookup url archivePages with
  | some page => .ok page
  | none => .error ⟨some 404, ""⟩

/-- From wherever a listing starts, links lead to the second page of offerings
only. A start that is no page has no links at all. -/
theorem finite_reached_archive (first : String) : (reached archive first).Finite := by
  have hlinks : ∀ url next, Listing.Links archive url next → next = "/2" := by
    rintro url next ⟨page, hpage, hnext, -⟩
    unfold archive at hpage
    split at hpage
    · rename_i found hfound
      cases hpage
      have hentry := Entries.mem_of_lookup_eq_some hfound
      simp only [archivePages, List.mem_cons, Prod.mk.injEq, List.not_mem_nil, or_false] at hentry
      rcases hentry with ⟨-, rfl⟩ | ⟨-, rfl⟩ | ⟨-, rfl⟩ <;> simpa using hnext.symm
    · cases hpage
  have hsubset : reached archive first ⊆ {first, "/2"} := by
    intro url hreached
    rcases Relation.ReflTransGen.cases_tail hreached with rfl | ⟨last, -, hlink⟩
    · simp
    · simp [hlinks last url hlink]
  exact (Set.toFinite _).subset hsubset

/-- The loop is left, and what is no offering and no plan is left out. -/
theorem offerings?_assembled_archive :
    Bounded archive ∧ ∃ bound, ∀ limit, bound ≤ limit → offerings? archive limit
      = some ⟨["/v2/services", "/2", "/p"],
          .ok [⟨"files", [⟨"small", "1"⟩]⟩, ⟨"mail", []⟩]⟩ := by
  have hbounded : Bounded archive :=
    ⟨finite_reached_archive _, fun _ _ _ _ _ _ first _ => finite_reached_archive first⟩
  obtain ⟨services, plans, retrieval, -, hends, hagrees, -⟩ :=
    offerings?_assembled archive hbounded
  have hthree : offerings? archive 3
      = some ⟨["/v2/services", "/2", "/p"],
          .ok [⟨"files", [⟨"small", "1"⟩]⟩, ⟨"mail", []⟩]⟩ := by
    rfl
  -- One limit that is enough tells the outcome for all of them.
  refine ⟨hbounded, (itinerary archive services plans).length, fun limit hlimit => ?_⟩
  rw [hends limit hlimit, hagrees 3 _ hthree]

/-- A controller puts its catalog together from the pages that its client
fetches. -/
example (controller : Controller) :
    controller.offerings? = offerings? controller.fetchPage controller.pageLimit := rfl

end Catalog

end MultiTarget
