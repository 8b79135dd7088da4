import Mathlib.Data.Finset.Card
import Mathlib.Data.List.Chain
import Mathlib.Data.Set.Finite.Basic
import Mathlib.Logic.Relation
import MultiTarget.Listing
import MultiTarget.Proofs.Support.Outcome

/-!
# `MultiTarget.Proofs.Pagination`: following the links of a listing

Every page has at most one link, so the links lead from a first URL along one
chain of URLs. A run of a listing (`Run`) is the longest start of this chain
without repetitions: it ends where a page fails, where a page has no link, or
where the link leads back.

* `exists_run`: there is a run if only finitely many URLs are reached, for a
  chain without repetitions can be extended no further than that.
* `followFrom?_of_run`: what is followed is the run. The induction is on what
  is left of it, and the URLs seen are what is behind.

With as many pages allowed as the run has, the listing ends with what its pages
give one after the other, and with fewer it does not end (`follow?_of_run`).
-/

set_option autoImplicit false

namespace MultiTarget.Listing

open Relation (ReflTransGen)

variable {fetch : String → Except PlatformError Page} {first url next : String}
  {urls before after : List String}

/-! ### Links -/

/-- The page of a URL links to another one. An empty link is none, and a page
that fails links nowhere. -/
def Links (fetch : String → Except PlatformError Page) (url next : String) : Prop :=
  ∃ page, fetch url = .ok page ∧ page.nextUrl = some next ∧ next ≠ ""

/-- The URLs that links lead to, the first one among them. A page that fails is
reached like any other. -/
def reached (fetch : String → Except PlatformError Page) (first : String) : Set String :=
  {url | ReflTransGen (Links fetch) first url}

/-- The link that is followed is the one of the page, unless it is empty. -/
theorem next?_eq_some_iff {page : Page} :
    page.next? = some next ↔ page.nextUrl = some next ∧ next ≠ "" := by
  simp [Page.next?, Option.filter_eq_some_iff]

/-- A page has at most one link. So what is reached is one chain, and no search
is needed to follow it. -/
theorem Links.unique {other : String} (h : Links fetch url next) (hother : Links fetch url other) :
    next = other := by
  obtain ⟨page, hpage, hnext, -⟩ := h
  obtain ⟨page', hpage', hnext', -⟩ := hother
  obtain rfl := Except.ok.inj (hpage.symm.trans hpage')
  exact Option.some.inj (hnext.symm.trans hnext')

/-! ### Runs -/

/-- A start without repetitions of the chain of links from a first URL. It has
at least this URL. -/
structure Trail (fetch : String → Except PlatformError Page) (first : String)
    (urls : List String) : Prop where
  starts : urls.head? = some first
  linked : urls.IsChain (Links fetch)
  nodup : urls.Nodup

/-- The longest start without repetitions: no link leads from its last URL to a
new one. The listing is shown to fetch just these URLs. -/
structure Run (fetch : String → Except PlatformError Page) (first : String)
    (urls : List String) : Prop extends Trail fetch first urls where
  maximal : ∀ last ∈ urls.getLast?, ∀ next, Links fetch last next → next ∈ urls

/-- Links lead to all of a trail. It bounds the length of trails by the number
of URLs that are reached. -/
theorem Trail.mem_reached (h : Trail fetch first urls) (hurl : url ∈ urls) :
    url ∈ reached fetch first := by
  have hchain : ∀ (rest : List String) (first : String),
      (first :: rest).IsChain (Links fetch) → url ∈ first :: rest → url ∈ reached fetch first := by
    intro rest
    -- On the chain from its first URL, which changes with every step.
    induction rest with
    | nil =>
        intro first _ hmem
        obtain rfl := List.mem_singleton.1 hmem
        exact ReflTransGen.refl
    | cons second rest ih =>
        intro first hlinked hmem
        obtain ⟨hlink, hrest⟩ := List.isChain_cons_cons.1 hlinked
        rcases List.mem_cons.1 hmem with rfl | hlater
        · exact ReflTransGen.refl
        · exact ReflTransGen.head hlink (ih second hrest hlater)
  obtain ⟨rest, rfl⟩ := List.head?_eq_some_iff.1 h.starts
  exact hchain rest first h.linked hurl

/-- A trail is no longer than what is reached, as it has no URL twice. This is
the one place where finiteness is used. -/
theorem Trail.length_le (h : Trail fetch first urls) (hfinite : (reached fetch first).Finite) :
    urls.length ≤ hfinite.toFinset.card := by
  rw [← List.toFinset_card_of_nodup h.nodup]
  refine Finset.card_le_card fun url hurl => ?_
  exact hfinite.mem_toFinset.2 (h.mem_reached (List.mem_toFinset.1 hurl))

/-- A trail that is not the longest one goes on, by the link of its last
URL. -/
theorem Trail.run_or_longer (h : Trail fetch first urls) :
    Run fetch first urls ∨ ∃ next, Trail fetch first (urls ++ [next]) := by
  by_cases hmaximal : ∀ last ∈ urls.getLast?, ∀ next, Links fetch last next → next ∈ urls
  · exact .inl ⟨h, hmaximal⟩
  · push Not at hmaximal
    obtain ⟨last, hlast, next, hlink, hnew⟩ := hmaximal
    refine .inr ⟨next, ?_, ?_, ?_⟩
    · rw [List.head?_append, h.starts]
      rfl
    · rw [List.isChain_append]
      refine ⟨h.linked, List.isChain_singleton _, fun x hx y hy => ?_⟩
      obtain rfl := Option.some.inj (hx.symm.trans hlast)
      obtain rfl := Option.some.inj hy
      exact hlink
    · exact List.nodup_append.2 ⟨h.nodup, List.nodup_singleton _, by
        rintro a ha _ hb rfl
        obtain rfl := List.mem_singleton.1 hb
        exact hnew ha⟩

/-- A listing that reaches finitely many URLs has a run. Without this condition
a listing may go on to new URLs for ever. -/
theorem exists_run (hfinite : (reached fetch first).Finite) : ∃ urls, Run fetch first urls := by
  -- The room that is left for a trail shrinks with every URL that it goes on to.
  have hextend : ∀ (room : Nat) (urls : List String), Trail fetch first urls →
      hfinite.toFinset.card ≤ urls.length + room → ∃ urls, Run fetch first urls := by
    intro room
    induction room with
    | zero =>
        intro urls htrail hroom
        rcases htrail.run_or_longer with hrun | ⟨next, hlonger⟩
        · exact ⟨urls, hrun⟩
        · have hlength := hlonger.length_le hfinite
          rw [List.length_append, List.length_singleton] at hlength
          omega
    | succ room ih =>
        intro urls htrail hroom
        rcases htrail.run_or_longer with hrun | ⟨next, hlonger⟩
        · exact ⟨urls, hrun⟩
        · refine ih (urls ++ [next]) hlonger ?_
          rw [List.length_append, List.length_singleton]
          omega
  have hfirst : Trail fetch first [first] :=
    ⟨rfl, List.isChain_singleton _, List.nodup_singleton _⟩
  exact hextend hfinite.toFinset.card [first] hfirst (by omega)

/-- A run does not come back to a URL. So what is behind tells whether a URL
has been seen. -/
theorem Trail.notMem (h : Trail fetch first (before ++ url :: after)) : url ∉ before := by
  intro hurl
  exact (List.nodup_append.1 h.nodup).2.2 url hurl url List.mem_cons_self rfl

/-- A link from a URL of a run leads to the one behind it, or from the last one
back. These are the two cases of a step. -/
theorem Run.next_cases (h : Run fetch first (before ++ url :: after))
    (hlink : Links fetch url next) :
    after = [] ∧ next ∈ before ++ [url] ∨ ∃ rest, after = next :: rest := by
  cases after with
  | nil => exact .inl ⟨rfl, h.maximal url (by simp) next hlink⟩
  | cons other rest =>
      obtain ⟨-, hlinked⟩ := List.isChain_split.1 h.linked
      obtain rfl := (List.isChain_cons_cons.1 hlinked).1.unique hlink
      exact .inr ⟨rest, rfl⟩

/-- A run ends where there is no link, since every URL but the last one has
one. -/
theorem Run.after_eq_nil (h : Run fetch first (before ++ url :: after))
    (hnone : ∀ next, ¬ Links fetch url next) : after = [] := by
  cases after with
  | nil => rfl
  | cons next rest =>
      obtain ⟨-, hlinked⟩ := List.isChain_split.1 h.linked
      exact absurd (List.isChain_cons_cons.1 hlinked).1 (hnone next)

/-- A run ends at the first page that fails, for such a page has no link. -/
theorem Run.after_eq_nil_of_error (h : Run fetch first (before ++ url :: after))
    {error : PlatformError} (herror : fetch url = .error error) : after = [] := by
  refine h.after_eq_nil ?_
  rintro next ⟨page, hpage, -⟩
  cases herror.symm.trans hpage

/-- All pages of a run but the last one are there. So the error of a listing is
that of its last page. -/
theorem Run.exists_page (h : Run fetch first (before ++ url :: after)) {other : String}
    (hother : other ∈ before) : ∃ page, fetch other = .ok page := by
  obtain ⟨front, back, rfl⟩ := List.append_of_mem hother
  cases hpage : fetch other with
  | ok page => exact ⟨page, rfl⟩
  | error error =>
      rw [List.append_assoc, List.cons_append] at h
      exact absurd (h.after_eq_nil_of_error hpage) (by simp)

/-- A run has all URLs that are reached. Where it ends, the only link leads
back into it. -/
theorem Run.mem_iff (h : Run fetch first urls) : url ∈ urls ↔ url ∈ reached fetch first := by
  constructor
  · exact h.mem_reached
  · intro hreached
    -- On the links that lead there: each one leads on within the run.
    induction hreached with
    | refl => exact List.mem_of_mem_head? h.starts
    | @tail last next _ hlink ih =>
        obtain ⟨before, after, rfl⟩ := List.append_of_mem ih
        rcases h.next_cases hlink with ⟨rfl, hnext⟩ | ⟨rest, rfl⟩
        · exact hnext
        · simp

/-! ### Following the links -/

section Step

variable {seen : List String} {limit : Nat} {page : Page}

/-- A link that leads back ends the listing. Nothing is fetched and nothing is
added, whatever the limit. -/
theorem followFrom?_of_seen (hurl : url ∈ seen) :
    followFrom? fetch limit seen url = some (.ofValue []) := by
  unfold followFrom?
  rw [if_pos hurl]

/-- One page more would be needed. Running out of pages is told from a listing
that has ended. -/
theorem followFrom?_zero (hnew : url ∉ seen) : followFrom? fetch 0 seen url = none := by
  unfold followFrom?
  rw [if_neg hnew]

/-- A page that fails ends the listing. It counts as one that was fetched. -/
theorem followFrom?_of_error (hnew : url ∉ seen) {error : PlatformError}
    (hpage : fetch url = .error error) :
    followFrom? fetch (limit + 1) seen url = some ⟨[url], .error error⟩ := by
  unfold followFrom?
  rw [if_neg hnew, hpage]

/-- A page without a link is the last one, and its resources are the last
ones. -/
theorem followFrom?_of_last (hnew : url ∉ seen) (hpage : fetch url = .ok page)
    (hnext : page.next? = none) :
    followFrom? fetch (limit + 1) seen url = some ⟨[url], .ok page.resources⟩ := by
  unfold followFrom?
  simp only [if_neg hnew, hpage, hnext]

/-- A link is followed with one page less, and its page is seen. What the rest
holds comes behind what the page holds. -/
theorem followFrom?_of_next (hnew : url ∉ seen) (hpage : fetch url = .ok page)
    (hnext : page.next? = some next) :
    followFrom? fetch (limit + 1) seen url
      = (followFrom? fetch limit (url :: seen) next).map fun rest =>
          (rest.map (page.resources ++ ·)).after [url] := by
  conv_lhs => unfold followFrom?
  simp only [if_neg hnew, hpage, hnext]

end Step

/-- What the pages of some URLs hold, one after the other, or why the first one
that fails did. It speaks of no link and no limit. -/
def contents (fetch : String → Except PlatformError Page) (urls : List String) :
    Except PlatformError (List Json) := do
  return (← urls.mapM fetch).flatMap Page.resources

theorem contents_nil : contents fetch [] = .ok [] := rfl

/-- What follows a page that fails is not asked for. -/
theorem contents_of_error {error : PlatformError} (hpage : fetch url = .error error)
    (urls : List String) : contents fetch (url :: urls) = .error error := by
  unfold contents
  rw [List.mapM_cons, hpage]
  rfl

/-- What a page holds comes before what the others hold. -/
theorem contents_of_ok {page : Page} (hpage : fetch url = .ok page) (urls : List String) :
    contents fetch (url :: urls) = (contents fetch urls).map (page.resources ++ ·) := by
  unfold contents
  rw [List.mapM_cons, hpage]
  cases urls.mapM fetch <;> rfl

/-- From a URL of a run on, what is left of the run is followed, in as many
pages. What has been seen is given as a list in any order, since it is
collected from the front. -/
theorem followFrom?_of_run (h : Run fetch first (before ++ url :: after)) {seen : List String}
    (hseen : ∀ other, other ∈ seen ↔ other ∈ before) (limit : Nat) :
    followFrom? fetch limit seen url
      = if after.length < limit then some ⟨url :: after, contents fetch (url :: after)⟩
        else none := by
  have hnew : url ∉ seen := fun hurl => h.notMem ((hseen url).1 hurl)
  -- On the limit. What is behind grows by the URL, and so does what has been seen.
  induction limit generalizing before url after seen with
  | zero =>
      rw [followFrom?_zero hnew, if_neg (Nat.not_lt_zero _)]
  | succ limit ih =>
      cases hpage : fetch url with
      | error error =>
          obtain rfl := h.after_eq_nil_of_error hpage
          rw [followFrom?_of_error hnew hpage, contents_of_error hpage]
          simp
      | ok page =>
          cases hnext : page.next? with
          | none =>
              have hnone : ∀ next, ¬ Links fetch url next := by
                rintro next ⟨page', hok, hlink⟩
                obtain rfl := Except.ok.inj (hpage.symm.trans hok)
                cases hnext.symm.trans (next?_eq_some_iff.2 hlink)
              obtain rfl := h.after_eq_nil hnone
              rw [followFrom?_of_last hnew hpage hnext, contents_of_ok hpage, contents_nil]
              simp [Except.map]
          | some next =>
              have hlink : Links fetch url next := ⟨page, hpage, next?_eq_some_iff.1 hnext⟩
              have hseen' : ∀ other, other ∈ url :: seen ↔ other ∈ before ++ [url] := by
                intro other
                simp [hseen, or_comm]
              rw [followFrom?_of_next hnew hpage hnext, contents_of_ok hpage]
              -- The link leads back to what is behind, or on to what is left of the run.
              rcases h.next_cases hlink with ⟨rfl, hback⟩ | ⟨rest, rfl⟩
              · rw [followFrom?_of_seen ((hseen' next).2 hback), contents_nil]
                simp [Except.map, Retrieval.ofValue, Retrieval.map, Retrieval.after]
              · have hrun : Run fetch first ((before ++ [url]) ++ next :: rest) := by simpa using h
                have hnew' : next ∉ url :: seen := fun hback =>
                  hrun.notMem ((hseen' next).1 hback)
                rw [ih hrun hseen' hnew']
                by_cases hlimit : rest.length < limit
                · simp [hlimit, Retrieval.map, Retrieval.after]
                · simp [hlimit]

/-- A listing takes as many pages as its run has. Any limit from there on gives
the same. -/
theorem follow?_of_run (h : Run fetch first urls) (limit : Nat) :
    follow? fetch limit first
      = if urls.length ≤ limit then some ⟨urls, contents fetch urls⟩ else none := by
  obtain ⟨rest, rfl⟩ := List.head?_eq_some_iff.1 h.starts
  have hrun : Run fetch first ([] ++ first :: rest) := h
  exact followFrom?_of_run hrun (fun other => Iff.rfl) limit

/-- The contents of pages all of which are there, in the order of their
URLs. -/
theorem contents_eq_ok {pages : List Page}
    (h : List.Forall₂ (fun url page => fetch url = .ok page) urls pages) :
    contents fetch urls = .ok (pages.flatMap Page.resources) := by
  unfold contents
  rw [Outcome.mapM_eq_ok_iff.2 h]
  rfl

/-- A page of a run that fails is the last one, and its error is that of the
contents. -/
theorem Run.of_error (h : Run fetch first urls) (hurl : url ∈ urls) {error : PlatformError}
    (herror : fetch url = .error error) :
    urls.getLast? = some url ∧ contents fetch urls = .error error := by
  obtain ⟨before, after, rfl⟩ := List.append_of_mem hurl
  obtain rfl := h.after_eq_nil_of_error herror
  refine ⟨List.getLast?_concat, Outcome.bind_eq_error.2 (.inl ?_)⟩
  exact Outcome.mapM_eq_error_iff.2
    ⟨before, url, [], rfl, fun other hother => h.exists_page hother, herror⟩

/-- **A listing is followed to its end.** If finitely many URLs are reached
from the first one, the listing ends once enough pages are allowed, and not
before. It fetches the longest start without repetitions of the chain of links,
which has every URL that is reached. A page that fails ends it with its error,
and without one it holds what all the pages hold, in order.

How pages are fetched is left open: it may be any function of a URL. -/
theorem follow?_ends (fetch : String → Except PlatformError Page) (first : String)
    (hfinite : (reached fetch first).Finite) :
    ∃ urls result, Run fetch first urls ∧ (∀ url, url ∈ urls ↔ url ∈ reached fetch first) ∧
      (∀ limit, follow? fetch limit first
        = if urls.length ≤ limit then some ⟨urls, result⟩ else none) ∧
      (∀ url ∈ urls, ∀ error, fetch url = .error error →
        urls.getLast? = some url ∧ result = .error error) ∧
      ∀ pages, List.Forall₂ (fun url page => fetch url = .ok page) urls pages →
        result = .ok (pages.flatMap Page.resources) := by
  obtain ⟨urls, hrun⟩ := exists_run hfinite
  exact ⟨urls, contents fetch urls, hrun, fun url => hrun.mem_iff, follow?_of_run hrun,
    fun url hurl error herror => hrun.of_error hurl herror, fun pages => contents_eq_ok⟩

/-- Three pages, the last of which links back to the second one. Any other URL
fails, but none is reached. -/
def looped : String → Except PlatformError Page
  | "/a" => .ok ⟨[.int 1], some "/b"⟩
  | "/b" => .ok ⟨[.int 2, .int 3], some "/c"⟩
  | "/c" => .ok ⟨[.int 4], some "/b"⟩
  | url => .error ⟨some 404, url⟩

/-- The loop is left where it closes, whatever the limit, as long as it is not
below three pages. -/
theorem follow?_ends_looped :
    (reached looped "/a").Finite ∧ ∀ limit, follow? looped limit "/a"
      = if 3 ≤ limit then
          some ⟨["/a", "/b", "/c"], .ok [.int 1, .int 2, .int 3, .int 4]⟩
        else none := by
  have hlinks : ∀ url next, Links looped url next → next = "/b" ∨ next = "/c" := by
    rintro url next ⟨page, hpage, hnext, -⟩
    unfold looped at hpage
    split at hpage <;> cases hpage <;> cases hnext <;> simp
  have hsubset : reached looped "/a" ⊆ {"/a", "/b", "/c"} := by
    intro url hreached
    rcases ReflTransGen.cases_tail hreached with rfl | ⟨last, -, hlink⟩
    · simp
    · rcases hlinks last url hlink with rfl | rfl <;> simp
  have hfinite : (reached looped "/a").Finite :=
    (Set.toFinite {"/a", "/b", "/c"}).subset hsubset
  obtain ⟨urls, result, -, -, hfollow, -⟩ := follow?_ends looped "/a" hfinite
  have hthree : follow? looped 3 "/a"
      = some ⟨["/a", "/b", "/c"], .ok [.int 1, .int 2, .int 3, .int 4]⟩ := by rfl
  rw [hfollow] at hthree
  split at hthree
  · cases hthree
    exact ⟨hfinite, hfollow⟩
  · cases hthree

end MultiTarget.Listing
