import Mathlib.Data.List.TakeDrop
import MultiTarget.Proofs.Template.Separators

/-!
# `MultiTarget.Proofs.SettledRoutes`: the parts of a route before and after

A route is divided into its parts before values are put in place of its
placeholders, or after. The parts are cut out one after the other: the
authority between the scheme and the path, the port behind the last colon
or, where there is none, the host before the first dot. Values without
separators leave the authority (`authority_resolveFrom`) and what is told
apart by port (`byPort?_resolveFrom`) where they are. A value may have dots,
and these must not come before the host ends (`behindHost_resolveFrom`).

A route is `Settled` if all of this is given and what stands for its port
does not turn into another one. Its port is then the one of the URI
(`Settled.portOf?_substitute`), and its domain becomes the one of the URI
(`Settled.domainOf?_substitute`).
-/

set_option autoImplicit false

namespace MultiTarget

open Template (Inert resolveFrom substitute toList_substitute)

/-! ### Parts of a route -/

namespace Uri

/-- What stands between the scheme and the path of a route. Host, domain and
port are in it. -/
def authority (route : List Char) : List Char := (withoutScheme route).takeWhile (· ≠ '/')

/-- The domain and the port of an authority that is told apart by port. A colon
with nothing in front of it counts for none. -/
def byPort? (authority : List Char) : Option (List Char × List Char) :=
  (Text.cutLast? [':'] authority).filter fun parts => !parts.1.isEmpty

/-- An authority without its host, if it has one. The host ends at the first
dot and is not empty. -/
def behindHost (authority : List Char) : List Char :=
  match Text.cutFirst? ['.'] authority with
  | some (_ :: _, domain) => domain
  | _ => authority

/-- The domain in an authority. What stands in front of a port is all domain,
whatever dots it has. -/
def domainIn (authority : List Char) : List Char :=
  match byPort? authority with
  | some (domain, _) => domain
  | none => behindHost authority

/-- The domain and the port of an authority are those that it is cut into. It
connects the parts, which are cut one after the other, with the reader of
routes. -/
theorem ofAuthority_domain_port (authority : List Char) (path : Option String) :
    (ofAuthority authority path).domain = String.ofList (domainIn authority) ∧
      (ofAuthority authority path).port
        = (byPort? authority).bind fun parts => port? parts.2 := by
  unfold ofAuthority domainIn byPort? behindHost
  -- A colon with nothing before it makes no port, and such a dot no host.
  rcases Text.cutLast? [':'] authority with _ | ⟨_ | ⟨c, domain⟩, port⟩
  · rcases Text.cutFirst? ['.'] authority with _ | ⟨_ | ⟨c, host⟩, domain⟩ <;> exact ⟨rfl, rfl⟩
  · rcases Text.cutFirst? ['.'] authority with _ | ⟨_ | ⟨c, host⟩, domain⟩ <;> exact ⟨rfl, rfl⟩
  · exact ⟨rfl, rfl⟩

/-- The port of a route is that of its authority, so that a path has no
influence on it. -/
theorem portOf?_eq (route : String) :
    portOf? route = (byPort? (authority route.toList)).bind fun parts => port? parts.2 := by
  unfold portOf? split
  rw [List.span_eq_takeWhile_dropWhile]
  exact (ofAuthority_domain_port _ _).2

/-- The domain of a route is that of its authority, unless it is empty. -/
theorem domainOf?_eq (route : String) :
    domainOf? route = if domainIn (authority route.toList) = [] then none
      else some (String.ofList (domainIn (authority route.toList))) := by
  unfold domainOf? split
  rw [List.span_eq_takeWhile_dropWhile]
  show (some (ofAuthority (authority route.toList) _).domain).filter (!·.isEmpty) = _
  rw [(ofAuthority_domain_port _ _).1, Option.filter_some]
  cases domainIn (authority route.toList) <;> simp

/-! ### Parts before and after a pass -/

variable {values : Placeholder.Values} {cs : List Char}

/-- Neither a scheme nor a port nor a path begins inside a token. So a token is
in one part and not in two. -/
theorem separators_notMem_token : ∀ c ∈ [':', '/'], ∀ named : Placeholder, c ∉ named.token :=
  fun c hc => Template.delimiter_notMem_token c (List.mem_cons_of_mem _ hc)

theorem withoutScheme_isSuffix (cs : List Char) : withoutScheme cs <:+ cs := by
  unfold withoutScheme
  split
  · rename_i c scheme rest hcut
    exact Text.isSuffix_of_cutFirst? hcut
  · exact List.suffix_rfl

/-- An authority is a piece of its route, and what holds of all pieces holds of
it. -/
theorem authority_isInfix (cs : List Char) : authority cs <:+: cs :=
  (List.takeWhile_prefix _).isInfix.trans (withoutScheme_isSuffix cs).isInfix

/-- A domain is a piece of its authority, told apart by port or not. So no
value in it is one that the route has not. -/
theorem domainIn_isInfix (cs : List Char) : domainIn cs <:+: cs := by
  unfold domainIn
  split
  · rename_i domain port hparts
    obtain ⟨hcut, -⟩ := Option.filter_eq_some_iff.1 hparts
    exact (Text.isPrefix_of_cutLast? hcut).isInfix
  · unfold behindHost
    split
    · rename_i c host domain hcut
      exact (Text.isSuffix_of_cutFirst? hcut).isInfix
    · exact List.infix_rfl

/-- A pass leaves the scheme where it is. No value has the separators, and none
can make a scheme empty. -/
theorem withoutScheme_resolveFrom (h : Inert values [':', '/'] cs) :
    withoutScheme (resolveFrom values 0 cs) = resolveFrom values 0 (withoutScheme cs) := by
  unfold withoutScheme
  rw [schemeSeparator_eq, h.cutFirst?_resolveFrom (by decide)]
  cases hcut : Text.cutFirst? (':' :: ['/', '/']) cs with
  | none => rfl
  | some parts =>
      obtain ⟨scheme, rest⟩ := parts
      have hscheme := h.of_isInfix (Text.isPrefix_of_cutFirst? hcut).isInfix
      -- An empty scheme is none, and one that is not empty does not become so.
      cases scheme with
      | nil => rfl
      | cons c scheme =>
          obtain ⟨d, scheme', heq⟩ := hscheme.exists_resolveFrom_cons
          rw [Option.map_some, heq]

/-- A pass leaves the authority where it is, with values in it. -/
theorem authority_resolveFrom (h : Inert values [':', '/'] cs) :
    authority (resolveFrom values 0 cs) = resolveFrom values 0 (authority cs) := by
  unfold authority
  rw [withoutScheme_resolveFrom h,
    (h.of_isInfix (withoutScheme_isSuffix cs).isInfix).takeWhile_resolveFrom (by decide)]

/-- A pass leaves the port where it is, with values in it and in what stands
before it. -/
theorem byPort?_resolveFrom (h : Inert values [':', '/'] cs) :
    byPort? (resolveFrom values 0 cs) = (byPort? cs).map fun parts =>
      (resolveFrom values 0 parts.1, resolveFrom values 0 parts.2) := by
  unfold byPort?
  rw [h.cutLast?_resolveFrom (by decide)]
  cases hcut : Text.cutLast? [':'] cs with
  | none => rfl
  | some parts =>
      obtain ⟨domain, port⟩ := parts
      have hdomain := h.of_isInfix (Text.isPrefix_of_cutLast? hcut).isInfix
      cases domain with
      | nil => rfl
      | cons c domain =>
          obtain ⟨d, domain', heq⟩ := hdomain.exists_resolveFrom_cons
          rw [Option.map_some, heq]
          show some (d :: domain', _) = some (resolveFrom values 0 (c :: domain), _)
          rw [heq]

/-- A pass leaves the host where it is if no dot is put in before it ends. A
value with dots would end the host earlier, hence the hypothesis. -/
theorem behindHost_resolveFrom (h : Inert values [':', '/'] cs)
    (hhost : '.' ∉ resolveFrom values 0 (cs.takeWhile (· ≠ '.'))) :
    behindHost (resolveFrom values 0 cs) = resolveFrom values 0 (behindHost cs) := by
  have htoken := Template.delimiter_notMem_token '.' (by simp)
  unfold behindHost
  -- With no dot at all there is no host, before and afterwards.
  cases hcut : Text.cutFirst? ['.'] cs with
  | none =>
      rw [Text.takeWhile_of_notMem (Text.cutFirst?_eq_none_iff.1 hcut)] at hhost
      rw [Text.cutFirst?_eq_none_iff.2 hhost]
  | some parts =>
      obtain ⟨host, domain⟩ := parts
      obtain ⟨rfl, hdot⟩ := Text.cutFirst?_eq_some_iff.1 hcut
      rw [Text.takeWhile_append_cons hdot] at hhost
      have hsplit : resolveFrom values 0 (host ++ '.' :: domain)
          = resolveFrom values 0 host ++ '.' :: resolveFrom values 0 domain :=
        Template.resolveFrom_append_cons htoken (Nat.zero_le _)
      -- So the first dot is still the first one, and a host does not become empty.
      rw [Text.cutFirst?_eq_some_iff.2 ⟨hsplit, hhost⟩]
      cases host with
      | nil => rfl
      | cons c host =>
          have hinert := h.of_isInfix (List.prefix_append (c :: host) _).isInfix
          obtain ⟨d, host', heq⟩ := hinert.exists_resolveFrom_cons
          rw [heq]

/-- Putting values into a route leaves its parts where they are. The three
fields are about the three ways in which they might be moved. -/
structure Settled (values : Placeholder.Values) (route : String) : Prop where
  /-- No part is divided, and none is lost. -/
  inert : Inert values [':', '/'] route.toList
  /-- What stands for a port stands for the same one. -/
  port : ∀ parts, byPort? (authority route.toList) = some parts →
    port? (resolveFrom values 0 parts.2) = port? parts.2
  /-- Where there is no port, the host ends at the same dot. -/
  host : byPort? (authority route.toList) = none →
    '.' ∉ resolveFrom values 0 ((authority route.toList).takeWhile (· ≠ '.'))

/-- A host under the default domain keeps its parts. -/
example : Settled (Template.knownDomain "apps.example.com")
    "https://web.\x7bxsa-placeholder-domain-default\x7d/shop" := by
  have hnone : byPort? (authority
      "https://web.\x7bxsa-placeholder-domain-default\x7d/shop".toList) = none := by
    decide +kernel
  refine ⟨⟨separators_notMem_token, fun named value hvalue _ => ?_⟩, fun parts hparts => ?_,
    fun _ => by decide +kernel⟩
  · obtain rfl : "apps.example.com" = value := by cases named <;> cases hvalue <;> rfl
    refine ⟨by decide, fun c hc => ?_⟩
    rcases List.mem_pair.1 hc with rfl | rfl <;> decide
  · cases hnone.symm.trans hparts

namespace Settled

variable {route : String}

/-- A route without placeholders is settled, since it stays as it is. -/
theorem of_notMem (values : Placeholder.Values) (hroute : '\x7b' ∉ route.toList) :
    Settled values route := by
  have hsame : ∀ part, part <:+: route.toList → resolveFrom values 0 part = part :=
    fun part hpart => Template.resolveFrom_of_notMem values (mt (hpart.subset ·) hroute)
  refine ⟨⟨separators_notMem_token, fun named value _ htoken => ?_⟩, fun parts hparts => ?_,
    fun _ => ?_⟩
  · exact absurd (htoken.subset List.mem_cons_self) hroute
  · obtain ⟨hcut, -⟩ := Option.filter_eq_some_iff.1 hparts
    have hport := (Text.isSuffix_of_cutLast? hcut).isInfix
    rw [hsame _ (hport.trans (authority_isInfix _))]
  · rw [hsame _ ((List.takeWhile_prefix _).isInfix.trans (authority_isInfix _))]
    intro hdot
    simpa using List.mem_takeWhile_imp hdot

/-- The port of a settled route is that of the URI. So it does not matter
whether it is read before values are put in or afterwards. -/
theorem portOf?_substitute (h : Settled values route) :
    portOf? (substitute values route) = portOf? route := by
  have hauthority := h.inert.of_isInfix (authority_isInfix route.toList)
  rw [portOf?_eq, portOf?_eq, toList_substitute, authority_resolveFrom h.inert,
    byPort?_resolveFrom hauthority]
  cases hparts : byPort? (authority route.toList) with
  | none => rfl
  | some parts => exact h.port parts hparts

/-- A port that is written out is the port of the URI, whatever the values
are. -/
example (values : Placeholder.Values) :
    portOf? (substitute values "tcp.example.com:5000") = some 5000 := by
  rw [(of_notMem values (by decide)).portOf?_substitute]
  decide +kernel

/-- The domain of a settled route becomes that of the URI when values are put
into it. -/
theorem domainOf?_substitute (h : Settled values route) :
    domainOf? (substitute values route) = (domainOf? route).map (substitute values) := by
  have hauthority := h.inert.of_isInfix (authority_isInfix route.toList)
  have hdomain : domainIn (resolveFrom values 0 (authority route.toList))
      = resolveFrom values 0 (domainIn (authority route.toList)) := by
    unfold domainIn
    rw [byPort?_resolveFrom hauthority]
    cases hparts : byPort? (authority route.toList) with
    | none => exact behindHost_resolveFrom hauthority (h.host hparts)
    | some parts => rfl
  have hnil := (hauthority.of_isInfix (domainIn_isInfix _)).resolveFrom_eq_nil_iff
  have hsubstitute : ∀ cs, substitute values (String.ofList cs)
      = String.ofList (resolveFrom values 0 cs) := by
    intro cs
    rw [← String.toList_inj, toList_substitute, String.toList_ofList, String.toList_ofList]
  rw [domainOf?_eq, domainOf?_eq, toList_substitute, authority_resolveFrom h.inert, hdomain]
  -- No value is empty, so a domain is empty afterwards only if it was.
  by_cases hempty : domainIn (authority route.toList) = []
  · rw [if_pos hempty, if_pos (hnil.2 hempty)]
    rfl
  · rw [if_neg hempty, if_neg (mt hnil.1 hempty), Option.map_some, hsubstitute]

end Settled

end Uri

end MultiTarget
