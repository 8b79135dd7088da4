import Mathlib.Data.List.TakeDrop
import MultiTarget.Proofs.Support.Cut
import MultiTarget.Proofs.Support.Numerals
import MultiTarget.Uri

/-!
# `MultiTarget.Proofs.Address`: routes that are put together and divided again

A route is put together from an address and a path, and a scheme may stand in
front. An address is a host of a domain or a port of one. The parts come out
again when the route is divided, as long as each delimiter is found where it
was put.

The cuts are made one after the other over the whole route. The address lets
each of them pass or meets it at its own delimiter: it has no slash
(`slash_notMem_text`), no scheme begins at its end (`getLast?_text_ne_colon`),
and it is cut into the parts it is made of (`ofAuthority_text`). A path is
free in all but its first character. So what looks like the end of a scheme
may stand in it, and is taken for one where no scheme stands in front.
`split_text_iff` says that this is the only thing that can go wrong.
-/

set_option autoImplicit false

namespace MultiTarget

namespace Uri

open Text (cutFirst? cutLast?)

/-! ### Addresses -/

/-- A text that is not empty and has none of some characters. The characters
are those that end the part in a route, so what is named comes out of a
division as a whole. -/
def Named (delimiters : List Char) (text : String) : Prop :=
  text ≠ "" ∧ ∀ c ∈ delimiters, c ∉ text.toList

/-- Whether a text is named is decided by a look at the delimiters one by one,
so it can be evaluated for the parts of a given route. -/
instance (delimiters : List Char) (text : String) : Decidable (Named delimiters text) :=
  -- Only the delimiters are gone through, not all characters.
  @instDecidableAnd _ _ inferInstance (List.decidableBAll (· ∉ text.toList) delimiters)

/-- A name begins with a character. The division of a route tests its parts for
emptiness, which this passes. -/
theorem Named.exists_cons {delimiters : List Char} {text : String} (h : Named delimiters text) :
    ∃ c rest, text.toList = c :: rest := by
  refine List.exists_cons_of_ne_nil fun hnil => h.1 ?_
  simpa using hnil

/-- Where a route leads: to a host of a domain, or to a port of one. A route
without both has a domain alone, and is divided in another way, so it is no
address here. -/
inductive Address where
  | atHost (host domain : String)
  | atPort (domain : String) (port : Nat)
  deriving DecidableEq, Repr

namespace Address

/-- An address as it is written in front of a path, the way routes are
assembled. -/
def text : Address → String
  | .atHost host domain => s!"{host}.{domain}"
  | .atPort domain port => s!"{domain}:{port}"

/-- The parts of a route that leads to an address, with the host empty where a
port takes its place. -/
def uri (path : Option String) : Address → Uri
  | .atHost host domain => ⟨host, domain, none, path⟩
  | .atPort domain port => ⟨"", domain, some port, path⟩

/-- Hosts and domains have no delimiter that comes after them, and a port has a
number that a port can have. A domain may have dots, as it stands behind the
first one, but a host may not. -/
def WellFormed : Address → Prop
  | .atHost host domain => Named ['.', ':', '/'] host ∧ Named [':', '/'] domain
  | .atPort domain port => Named [':', '/'] domain ∧ 1 ≤ port ∧ port ≤ 65535

/-- The characters of a host of a domain, with the dot that is looked for
first. -/
theorem toList_text_atHost (host domain : String) :
    (atHost host domain).text.toList = host.toList ++ '.' :: domain.toList := by
  simp [text, toString]

/-- The characters of a port of a domain, with the colon that is looked for
from the end. -/
theorem toList_text_atPort (domain : String) (port : Nat) :
    (atPort domain port).text.toList = domain.toList ++ ':' :: Nat.toDigits 10 port := by
  simp [text, toString, Nat.toList_repr]

namespace WellFormed

variable {address : Address}

/-- An address is cut into the parts that it is made of. Each delimiter is
found where it was put, because the parts before or behind it do not have
it. -/
theorem ofAuthority_text (h : address.WellFormed) (path : Option String) :
    ofAuthority address.text.toList path = address.uri path := by
  cases address with
  | atHost host domain =>
      obtain ⟨hhost, hdomain⟩ := h
      obtain ⟨c, rest, hcons⟩ := hhost.exists_cons
      have hcolon : ':' ∉ host.toList ++ '.' :: domain.toList := by
        simp [hhost.2 ':' (by simp), hdomain.2 ':' (by simp)]
      -- Without a colon there is no port. The first dot is the one behind the host, however many
      -- there are in the domain.
      have hlast : cutLast? [':'] (host.toList ++ '.' :: domain.toList) = none :=
        Text.cutLast?_eq_none_iff.2 hcolon
      have hfirst : cutFirst? ['.'] (host.toList ++ '.' :: domain.toList)
          = some (host.toList, domain.toList) :=
        Text.cutFirst?_eq_some_iff.2 ⟨rfl, hhost.2 '.' (by simp)⟩
      rw [toList_text_atHost, ofAuthority, hlast, hfirst, hcons]
      simp [uri, ← hcons]
  | atPort domain port =>
      obtain ⟨hdomain, hpos, hlimit⟩ := h
      obtain ⟨c, rest, hcons⟩ := hdomain.exists_cons
      -- The digits of the port have no colon, so the last one is that in front of them.
      have hlast : cutLast? [':'] (domain.toList ++ ':' :: Nat.toDigits 10 port)
          = some (domain.toList, Nat.toDigits 10 port) :=
        Text.cutLast?_eq_some_iff.2 ⟨rfl, Text.notMem_toDigits (by decide) port⟩
      have hport : port? (Nat.toDigits 10 port) = some port := by
        rw [port?, Text.unsigned?_toDigits (by omega), Option.filter_some]
        simp
        omega
      rw [toList_text_atPort, ofAuthority, hlast, hcons]
      simp [uri, ← hcons, hport]

/-- No path begins inside an address, so what is cut off at the first slash is
the whole of it. -/
theorem slash_notMem_text (h : address.WellFormed) : '/' ∉ address.text.toList := by
  cases address with
  | atHost host domain =>
      rw [toList_text_atHost]
      simp [h.1.2 '/' (by simp), h.2.2 '/' (by simp)]
  | atPort domain port =>
      have hdigits : '/' ∉ Nat.toDigits 10 port := Text.notMem_toDigits (by decide) port
      rw [toList_text_atPort]
      simp [h.1.2 '/' (by simp), hdigits]

/-- An address does not end with a colon: the one that it may have is followed
by the digits of a port. Otherwise a path with two slashes would complete it to
the end of a scheme. -/
theorem getLast?_text_ne_colon (h : address.WellFormed) :
    address.text.toList.getLast? ≠ some ':' := by
  intro hlast
  cases address with
  | atHost host domain =>
      have hmem := List.mem_of_getLast? hlast
      rw [toList_text_atHost] at hmem
      simp [h.1.2 ':' (by simp), h.2.2 ':' (by simp)] at hmem
  | atPort domain port =>
      have hne : Nat.toDigits 10 port ≠ [] := Nat.toDigits_ne_nil
      rw [toList_text_atPort, List.getLast?_append, List.getLast?_cons,
        List.getLast?_eq_some_getLast hne] at hlast
      have hcolon : (Nat.toDigits 10 port).getLast hne = ':' := by simpa using hlast
      exact Text.notMem_toDigits (by decide) port (hcolon ▸ List.getLast_mem hne)

/-- An address has characters. So if a separator of a scheme is found behind
it, what stands before that is no empty scheme. -/
theorem text_ne_nil (h : address.WellFormed) : address.text.toList ≠ [] := by
  cases address with
  | atHost host domain => simp [toList_text_atHost]
  | atPort domain port => simp [toList_text_atPort]

end WellFormed

end Address

/-! ### Schemes -/

/-- A scheme that is put in front is found again, whatever comes behind. It has
no colon, so its own separator is the first one of the route. -/
theorem withoutScheme_withScheme {scheme : String} (hscheme : Named [':', '/'] scheme)
    (route : String) : withoutScheme (withScheme scheme route).toList = route.toList := by
  obtain ⟨c, rest, hcons⟩ := hscheme.exists_cons
  have hcut : cutFirst? schemeSeparator (scheme.toList ++ schemeSeparator ++ route.toList)
      = some (scheme.toList, route.toList) := by
    rw [schemeSeparator_eq, List.append_assoc,
      Text.cutFirst?_append_of_notMem (hscheme.2 ':' (by simp))]
    simp [cutFirst?, List.isPrefixOf?]
  rw [withScheme, String.toList_append, String.toList_append, String.toList_ofList, withoutScheme,
    hcut, hcons]

/-- The search for the end of a scheme passes over a text without slashes that
does not end with a colon. The second condition is needed because the separator
could begin at the end of the text and go on behind it. -/
theorem cutFirst?_schemeSeparator_append {cs rest : List Char} (hslash : '/' ∉ cs)
    (hcolon : cs.getLast? ≠ some ':') :
    cutFirst? schemeSeparator (cs ++ rest)
      = (cutFirst? schemeSeparator rest).map fun parts => (cs ++ parts.1, parts.2) := by
  induction cs with
  | nil => simp
  | cons c cs ih =>
      have hslash' : '/' ∉ cs := fun hmem => hslash (List.mem_cons_of_mem _ hmem)
      have hcolon' : cs.getLast? ≠ some ':' := by
        cases cs with
        | nil => simp
        | cons d cs => simpa using hcolon
      have hprefix : schemeSeparator.isPrefixOf? (c :: (cs ++ rest)) = none := by
        refine Option.eq_none_iff_forall_ne_some.2 fun after hafter => ?_
        have heq := List.isPrefixOf?_eq_some_iff_append_eq.1 hafter
        rw [schemeSeparator_eq] at heq
        obtain ⟨hc, htail⟩ := List.cons.inj heq
        -- If the head is a colon, it is not the last character, and no slash is behind it.
        cases cs with
        | nil => exact hcolon (by simp [← hc])
        | cons d cs =>
            have hd : '/' = d := (List.cons.inj htail).1
            exact hslash' (hd ▸ List.mem_cons_self)
      rw [List.cons_append, cutFirst?, hprefix, ih hslash' hcolon', Option.map_map]
      rfl

/-! ### Paths -/

/-- A path is empty, or it begins with a slash. Nothing else is asked of it, in
particular it may have any delimiter inside. -/
def IsPath (path : String) : Prop := path = "" ∨ path.toList.head? = some '/'

/-- A path as a part of a route, where an empty one is none. -/
def pathOf? (path : String) : Option String := if path = "" then none else some path

/-- The path is a part of its own, which a cut of the authority leaves
alone. -/
theorem ofAuthority_path (authority : List Char) (path : Option String) :
    (ofAuthority authority path).path = path := by
  unfold ofAuthority
  split
  · rfl
  · split <;> rfl

/-- What has no slash in front of a path is the authority. So once the scheme
is off, a route is divided at the beginning of its path. -/
theorem split_of_withoutScheme {route path : String} {authority : List Char}
    (h : withoutScheme route.toList = authority ++ path.toList) (hslash : '/' ∉ authority)
    (hpath : IsPath path) : split route = ofAuthority authority (pathOf? path) := by
  have hall : ∀ c ∈ authority, decide (c ≠ '/') = true := fun c hc =>
    decide_eq_true fun heq => hslash (heq ▸ hc)
  have hspan : (authority ++ path.toList).span (· ≠ '/') = (authority, path.toList) := by
    rw [List.span_eq_takeWhile_dropWhile, List.takeWhile_append_of_pos hall,
      List.dropWhile_append_of_pos hall]
    rcases hpath with rfl | hhead
    · simp
    · obtain ⟨rest, hrest⟩ := List.head?_eq_some_iff.1 hhead
      simp [hrest]
  rw [split, h, hspan]
  by_cases hnone : path = "" <;> simp [pathOf?, hnone]

/-- A path stands at the end of what comes behind the scheme. This bounds its
length, by which a division at a wrong place is noticed. -/
theorem isSuffix_of_split_path {route path : String} (h : (split route).path = some path) :
    path.toList <:+ withoutScheme route.toList := by
  rw [split, List.span_eq_takeWhile_dropWhile, ofAuthority_path] at h
  split at h
  · cases h
  · obtain rfl := Option.some.inj h
    rw [String.toList_ofList]
    exact List.dropWhile_suffix _

/-! ### Whole routes -/

/-- **When a route is divided into the parts that it was put together from.**
With a scheme in front it always is. Without one it is exactly if no separator
of a scheme stands in its path, since the search for a scheme goes through the
whole route and not through its beginning only. -/
theorem split_text_iff (address : Address) (path : String) (haddress : address.WellFormed)
    (hpath : IsPath path) :
    (∀ scheme, Named [':', '/'] scheme →
      split (withScheme scheme (address.text ++ path)) = address.uri (pathOf? path)) ∧
    (split (address.text ++ path) = address.uri (pathOf? path)
      ↔ ¬ schemeSeparator <:+: path.toList) := by
  have hslash := haddress.slash_notMem_text
  have hcut : cutFirst? schemeSeparator (address.text.toList ++ path.toList)
      = (cutFirst? schemeSeparator path.toList).map
        fun parts => (address.text.toList ++ parts.1, parts.2) :=
    cutFirst?_schemeSeparator_append hslash haddress.getLast?_text_ne_colon
  -- Both sides are about the authority cut out of the route, so the address is not opened again.
  rw [← haddress.ofAuthority_text]
  refine ⟨fun scheme hscheme => ?_, fun hsplit hinfix => ?_, fun hnone => ?_⟩
  · refine split_of_withoutScheme ?_ hslash hpath
    rw [withoutScheme_withScheme hscheme, String.toList_append]
  · -- The search stops in the path. Everything up to there counts as the scheme, so the path that
    -- comes out is shorter than the one that went in.
    obtain ⟨⟨before, after⟩, hfound⟩ := Option.ne_none_iff_exists'.1
      (mt Text.cutFirst?_eq_none_iff_not_isInfix.1 (not_not.2 hinfix))
    obtain ⟨c, rest, hcons⟩ := List.exists_cons_of_ne_nil
      (List.append_ne_nil_of_left_ne_nil haddress.text_ne_nil before)
    have hscheme : withoutScheme (address.text ++ path).toList = after := by
      rw [String.toList_append, withoutScheme, hcut, hfound, Option.map_some, hcons]
    have hsome : (split (address.text ++ path)).path = some path := by
      rw [hsplit, ofAuthority_path, pathOf?, if_neg]
      rintro rfl
      cases hfound
    have hlength := (hscheme ▸ isSuffix_of_split_path hsome).length_le
    rw [Text.eq_append_of_cutFirst? hfound, schemeSeparator_eq] at hlength
    simp at hlength
    omega
  · refine split_of_withoutScheme ?_ hslash hpath
    rw [String.toList_append, withoutScheme, hcut,
      Text.cutFirst?_eq_none_iff_not_isInfix.2 hnone]
    rfl

/-- A path that names another address hides its own, unless a scheme stands in
front. Such paths occur where one site redirects to another one. -/
theorem split_text_redirect :
    let address := Address.atHost "web" "example.com"
    let path := "/go/https://old.example.org"
    address.WellFormed ∧ IsPath path ∧ Named [':', '/'] "https" ∧
    split (withScheme "https" (address.text ++ path)) = ⟨"web", "example.com", none, some path⟩ ∧
    split (address.text ++ path) ≠ ⟨"web", "example.com", none, some path⟩ ∧
    split (address.text ++ path) = ⟨"old", "example.org", none, none⟩ := by
  intro address path
  have haddress : address.WellFormed := ⟨by decide, by decide⟩
  have hpath : IsPath path := .inr (by decide)
  have hscheme : Named [':', '/'] "https" := by decide
  obtain ⟨hwith, hwithout⟩ := split_text_iff address path haddress hpath
  refine ⟨haddress, hpath, hscheme, hwith "https" hscheme, fun hsplit => ?_, by decide +kernel⟩
  exact hwithout.1 hsplit (by decide +kernel)

end Uri

end MultiTarget
