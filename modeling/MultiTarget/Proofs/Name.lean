import Mathlib.Data.List.Basic
import MultiTarget.Name
import MultiTarget.Proofs.Support.Cut
import MultiTarget.Proofs.Support.Outcome

/-!
# `MultiTarget.Proofs.Name`: when shortened names meet

What is left of a name that is too long ends with its `tag`, the beginning
of its digest. So names with different tags stay apart as long as the tag
stays (`tag_eq_of_kept_eq`).

A namespace behind names is where it may go. The marker that the name ends
with is looked for in what is left, from the right, and all that follows
goes with it. The end of the name was cut off before, so a marker that is
found stood inside the name, and the tag is among what follows (`cut?`).
`ofText_eq_iff` says that this is the only way in which names with
different tags meet.
-/

set_option autoImplicit false

namespace MultiTarget

/-- No digit is a dash. A tag is made of digits, so no marker begins in it, as
all markers begin with a dash. -/
theorem Digest.dash_not_mem_hex (bytes : List UInt8) : '-' ∉ hex bytes := by
  have hdigit : ∀ n < 16, Nat.digitChar n ≠ '-' := by decide
  intro h
  obtain ⟨byte, -, h⟩ := List.mem_flatMap.1 h
  rcases List.mem_pair.1 h with h | h
  · exact hdigit _ (Nat.div_lt_of_lt_mul byte.toNat_lt) h.symm
  · exact hdigit _ (Nat.mod_lt _ (by decide)) h.symm

/-- What stands behind a character that the end of a text lacks is longer than
that end. So a cut at such a character is in front of the end. -/
theorem length_lt_of_append_eq_append_cons {cs ds before after : List Char} {c : Char}
    (h : cs ++ ds = before ++ c :: after) (hc : c ∉ ds) : before.length < cs.length := by
  -- The character stands in the end of the text, which it does not, or in front of it.
  rcases List.append_eq_append_iff.1 h with ⟨between, -, rfl⟩ | ⟨between, rfl, hbetween⟩
  · simp at hc
  · cases between with
    | nil =>
        rw [List.nil_append] at hbetween
        exact absurd (hbetween ▸ List.mem_cons_self) hc
    | cons d rest => simp

namespace Name

open Outcome (bind_eq_ok)

/-! ### What is shortened -/

/-- The namespace that stands behind names. There is none if the namespace is
empty, is not part of names or stands in front. -/
def Style.behind? (style : Style) : Option String :=
  if style.asSuffix then style.applied? else none

/-- The text that is shortened for a name. A namespace behind it does not
belong to it; one in front does, and is shortened with it. -/
def Style.text (style : Style) (name : String) : String :=
  match style.behind?, style.applied? with
  | none, some ns => ns ++ "-" ++ name
  | _, _ => name

/-- The room that there is for that text. With a namespace behind it the place
of the longest marker is set aside, whatever the name ends with. -/
def Style.room (style : Style) (maxLength : Nat) : Nat :=
  match style.behind? with
  | some ns => maxLength - (ns.length + 1 + maxMarkerLength)
  | none => maxLength

/-! ### What is left of a long text -/

/-- The end of a shortened text. It is made from the whole text and tells
different texts apart, unless their digests begin alike. -/
def tag (text : String) : List Char := (Digest.Sha256.hexDigest text).take digestLength

/-- What is left of a text that is too long: as much of its beginning as the
tag leaves room for, and the tag. -/
def kept (text : String) (room : Nat) : List Char :=
  text.toList.take (room - digestLength) ++ tag text

variable {text a b : String} {room : Nat}

/-- A tag has a fixed length, since a digest is never shorter than it. -/
theorem length_tag (text : String) : (tag text).length = digestLength := by
  rw [tag, List.length_take, Digest.Sha256.hexDigest_length]
  rfl

/-- No marker reaches into a tag, which has no dash. -/
theorem dash_not_mem_tag (text : String) : '-' ∉ tag text := fun h =>
  Digest.dash_not_mem_hex _ (List.mem_of_mem_take h)

/-- All the room is used. The tag must fit, for the subtraction in front of it
would be cut off otherwise. -/
theorem length_kept (hlong : room < text.length) (hroom : digestLength ≤ room) :
    (kept text room).length = room := by
  rw [kept, List.length_append, length_tag, List.length_take, String.length_toList]
  omega

/-- The tag stays. It stands at the end and has a fixed length, so what is left
of two texts tells their tags. -/
theorem tag_eq_of_kept_eq (h : kept a room = kept b room) : tag a = tag b :=
  (List.append_inj' h (by rw [length_tag, length_tag])).2

/-- A long text is shortened if there is room for the tag. The other texts are
left as they are and are of no interest here. -/
theorem shorten_eq_ok_iff (hlong : room < text.length) {short : String} :
    shorten text room = .ok short ↔
      digestLength ≤ room ∧ short = String.ofList (kept text room) := by
  rw [shorten, if_neg (Nat.not_le.2 hlong)]
  split
  · rename_i hroom
    simp [Nat.not_le.2 hroom]
  · rename_i hroom
    rw [Except.ok.injEq, eq_comm]
    exact (and_iff_right (Nat.not_lt.1 hroom)).symm

/-! ### Markers -/

/-- A name has at most one marker as its end. So the order in which markers are
looked for does not matter. -/
theorem eq_of_isSuffix_of_mem_markers {marker other cs : List Char} (hmarker : marker ∈ markers)
    (hother : other ∈ markers) (h : marker <:+ cs) (h' : other <:+ cs) : marker = other := by
  have hends : ∀ marker ∈ markers, ∀ other ∈ markers, marker <:+ other → marker = other := by
    decide
  exact (List.suffix_or_suffix_of_suffix h h').elim (hends _ hmarker _ hother) fun h =>
    (hends _ hother _ hmarker h).symm

/-- What a name is taken to end with, apart from a namespace: its marker, or
nothing. -/
def ending (name : String) : List Char := (marker? name.toList).getD []

/-- The name that is left, cut at the last occurrence of its marker in it: the
text before, and the marker. The marker is that of the whole name, though its
place in the name may have been cut off. -/
def cut? (name : String) (room : Nat) : Option (List Char × List Char) := do
  let marker ← marker? name.toList
  let (before, _) ← Text.cutLast? marker (kept name room)
  return (before, marker)

/-- What stands before a namespace that stands behind the name. Without a cut
it is all that is left of the name. -/
def stem (name : String) (room : Nat) : List Char :=
  match cut? name room with
  | some (before, _) => before
  | none => kept name room

variable {name : String}

/-- No marker exceeds the place that is set aside for it. -/
theorem length_ending_le (name : String) : (ending name).length ≤ maxMarkerLength := by
  have hmarkers : ∀ marker ∈ markers, marker.length ≤ maxMarkerLength := by decide
  unfold ending
  cases hmarker : marker? name.toList with
  | none => exact Nat.zero_le _
  | some marker => exact hmarkers marker (List.mem_of_find?_eq_some hmarker)

/-- A cut is at the marker of the name, so far to the front that the tag goes.
This is what makes long names meet. -/
theorem of_cut?_eq_some {before marker : List Char} (h : cut? name room = some (before, marker)) :
    marker ∈ markers ∧ ending name = marker ∧ stem name room = before ∧
      before.length < room - digestLength := by
  have hstem : stem name room = before := by rw [stem, h]
  obtain ⟨found, hfound, ⟨start, after⟩, hcut, hparts⟩ : ∃ found, marker? name.toList = some found ∧
      ∃ parts, Text.cutLast? found (kept name room) = some parts ∧
        (parts.1, found) = (before, marker) := by
    simpa [cut?, Option.bind_eq_some_iff] using h
  cases hparts
  have hmarker : marker ∈ markers := List.mem_of_find?_eq_some hfound
  refine ⟨hmarker, by rw [ending, hfound]; rfl, hstem, ?_⟩
  -- A marker begins with a dash, and the tag has none.
  have hdash : ∀ marker ∈ markers, marker = '-' :: marker.tail := by decide
  have hkept := Text.eq_append_of_cutLast? hcut
  rw [hdash _ hmarker, List.append_assoc, List.cons_append] at hkept
  have hlt := length_lt_of_append_eq_append_cons hkept (dash_not_mem_tag name)
  exact Nat.lt_of_lt_of_le hlt (List.length_take_le _ _)

/-- A name that is not cut stays with its tag, so that names with different
tags differ in it. -/
theorem stem_of_cut?_eq_none (h : cut? name room = none) : stem name room = kept name room := by
  rw [stem, h]

/-- A stem fits into the room. With the place for the marker, the whole name is
then within the limit. -/
theorem length_stem_le (hlong : room < name.length) (hroom : digestLength ≤ room) :
    (stem name room).length ≤ room := by
  cases hcut : cut? name room with
  | none =>
      have hlength := length_kept hlong hroom
      rw [← stem_of_cut?_eq_none hcut] at hlength
      exact Nat.le_of_eq hlength
  | some cut =>
      obtain ⟨-, -, hstem, hlt⟩ := of_cut?_eq_some hcut
      rw [hstem]
      omega

/-- The namespace stands between the stem and the ending. The name is a long
one, so that what is left of it is known. -/
theorem of_withSuffix_eq_ok {ns full : String} {maxLength : Nat}
    (hroom : maxLength - (ns.length + 1 + maxMarkerLength) = room) (hlong : room < name.length)
    (h : withSuffix name ns maxLength = .ok full) :
    digestLength ≤ room ∧ full.toList = stem name room ++ '-' :: ns.toList ++ ending name := by
  unfold withSuffix at h
  obtain ⟨short, hshort, hfull⟩ := bind_eq_ok.1 h
  rw [List.length_cons, String.length_toList, hroom] at hshort
  obtain ⟨htag, rfl⟩ := (shorten_eq_ok_iff hlong).1 hshort
  refine ⟨htag, ?_⟩
  rw [String.toList_ofList] at hfull
  unfold stem cut? ending
  cases hmarker : marker? name.toList with
  | none =>
      rw [hmarker] at hfull
      cases hfull
      exact String.toList_ofList.trans (List.append_nil _).symm
  | some marker =>
      rw [hmarker] at hfull
      cases hfull
      cases hcut : Text.cutLast? marker (kept name room) <;> simp [hcut]

/-! ### The whole name -/

variable {style : Style} {maxLength : Nat}

/-- The two ways in which a name is made: it is shortened once, or once before
the namespace is put behind it and once more afterwards. -/
theorem ofText_eq (style : Style) (name : String) (maxLength : Nat) :
    ofText style name maxLength = match style.behind? with
      | some ns => withSuffix name ns maxLength >>= (shorten · maxLength)
      | none => shorten (style.text name) maxLength := by
  unfold ofText Style.text Style.behind?
  cases style.applied? <;> cases style.asSuffix <;> rfl

/-- With a namespace behind them names are shortened by themselves, and the
namespace is put in afterwards. -/
theorem Style.text_of_behind? {ns : String} (h : style.behind? = some ns) (name : String) :
    style.text name = name := by
  rw [text, h]

/-- Without a namespace behind it a long name is kept as far as there is room.
Its tag is the end of what is made. -/
theorem of_ofText_of_behind?_eq_none {short : String} (hbehind : style.behind? = none)
    (hlong : style.room maxLength < (style.text name).length)
    (h : ofText style name maxLength = .ok short) :
    short.toList = kept (style.text name) (style.room maxLength) := by
  -- The text is shortened once, to all that the limit allows.
  rw [ofText_eq, hbehind] at h
  rw [Style.room, hbehind] at hlong ⊢
  obtain ⟨-, rfl⟩ := (shorten_eq_ok_iff hlong).1 h
  exact String.toList_ofList

/-- With a namespace behind it a long name is shortened only once. The second
time does nothing, since there is room for what was put together. -/
theorem of_ofText_of_behind?_eq_some {ns short : String} (hbehind : style.behind? = some ns)
    (hlong : style.room maxLength < name.length) (h : ofText style name maxLength = .ok short) :
    digestLength ≤ style.room maxLength ∧
      short.toList = stem name (style.room maxLength) ++ '-' :: ns.toList ++ ending name := by
  have hroom : maxLength - (ns.length + 1 + maxMarkerLength) = style.room maxLength := by
    rw [Style.room, hbehind]
  rw [ofText_eq, hbehind] at h
  obtain ⟨full, hfull, hshort⟩ := bind_eq_ok.1 h
  obtain ⟨htag, hparts⟩ := of_withSuffix_eq_ok hroom hlong hfull
  -- Room was left for all that stands behind the stem.
  have hlength : full.length ≤ maxLength := by
    have hstem := length_stem_le hlong htag
    have hending := length_ending_le name
    rw [← String.length_toList, hparts, List.length_append, List.length_append, List.length_cons,
      String.length_toList]
    have hpos : 0 < digestLength := by decide
    omega
  rw [shorten, if_pos hlength] at hshort
  cases hshort
  exact ⟨htag, hparts⟩

/-- A name that was cut at its marker is shorter than one that was not. Names
of the two sorts therefore never meet, whatever their tags. -/
theorem length_lt_of_cut? {cut : List Char × List Char} (hcut : cut? a room = some cut)
    (hcut' : cut? b room = none) (hlong : room < b.length) (hroom : digestLength ≤ room) :
    (stem a room).length + (ending a).length < (stem b room).length + (ending b).length := by
  obtain ⟨-, -, hstem, hlt⟩ := of_cut?_eq_some hcut
  rw [stem_of_cut?_eq_none hcut', length_kept hlong hroom, hstem]
  -- What goes has at least the length of the tag, and no marker is so long.
  have hending : (ending a).length ≤ maxMarkerLength := length_ending_le a
  have hmarker : maxMarkerLength ≤ digestLength := by decide
  omega

/-- Stems meet in front of a namespace and the endings if they come from the
same cut. The text between is left open, as only its length counts. -/
theorem stem_append_eq_iff (ha : room < a.length) (hb : room < b.length)
    (hroom : digestLength ≤ room) (htags : tag a ≠ tag b) (between : List Char) :
    stem a room ++ between ++ ending a = stem b room ++ between ++ ending b ↔
      ∃ cut, cut? a room = some cut ∧ cut? b room = some cut := by
  constructor
  · intro h
    have hlength : (stem a room).length + (ending a).length
        = (stem b room).length + (ending b).length := by
      have hlength := congrArg List.length h
      simp only [List.length_append] at hlength
      omega
    -- Lengths tell whether a name was cut, so only cuts of both or of neither are left.
    cases hcut : cut? a room with
    | none =>
        cases hcut' : cut? b room with
        | none =>
            -- Both tags stay, in the same place.
            rw [stem_of_cut?_eq_none hcut, stem_of_cut?_eq_none hcut', List.append_assoc,
              List.append_assoc] at h
            have hkept : (kept a room).length = (kept b room).length := by
              rw [length_kept ha hroom, length_kept hb hroom]
            exact absurd (tag_eq_of_kept_eq (List.append_inj h hkept).1) htags
        | some cut => exact absurd hlength (Nat.ne_of_gt (length_lt_of_cut? hcut' hcut ha hroom))
    | some cut =>
        cases hcut' : cut? b room with
        | none => exact absurd hlength (Nat.ne_of_lt (length_lt_of_cut? hcut hcut' hb hroom))
        | some cut' =>
            obtain ⟨before, marker⟩ := cut
            obtain ⟨before', marker'⟩ := cut'
            obtain ⟨hmarker, hending, hstem, -⟩ := of_cut?_eq_some hcut
            obtain ⟨hmarker', hending', hstem', -⟩ := of_cut?_eq_some hcut'
            rw [hending, hstem, hending', hstem'] at h
            obtain rfl := eq_of_isSuffix_of_mem_markers hmarker hmarker'
              (h ▸ List.suffix_append _ marker) (List.suffix_append _ _)
            rw [List.append_left_inj, List.append_left_inj] at h
            exact ⟨_, rfl, h ▸ rfl⟩
  · rintro ⟨⟨before, marker⟩, hcut, hcut'⟩
    obtain ⟨-, hending, hstem, -⟩ := of_cut?_eq_some hcut
    obtain ⟨-, hending', hstem', -⟩ := of_cut?_eq_some hcut'
    rw [hending, hstem, hending', hstem']

/-- **When shortened names meet.** Two names whose texts are too long and
have different tags become one name exactly if a namespace stands behind
names, both names end with the same marker, this marker is found in what is
left of either, and the same text stands before it. -/
theorem ofText_eq_iff (ha : style.room maxLength < (style.text a).length)
    (hb : style.room maxLength < (style.text b).length)
    (htags : tag (style.text a) ≠ tag (style.text b)) {short short' : String}
    (hshort : ofText style a maxLength = .ok short)
    (hshort' : ofText style b maxLength = .ok short') :
    short = short' ↔ style.behind?.isSome ∧ ∃ cut,
      cut? a (style.room maxLength) = some cut ∧ cut? b (style.room maxLength) = some cut := by
  rw [← String.toList_inj]
  cases hbehind : style.behind? with
  | none =>
      rw [of_ofText_of_behind?_eq_none hbehind ha hshort,
        of_ofText_of_behind?_eq_none hbehind hb hshort']
      simpa using fun h => htags (tag_eq_of_kept_eq h)
  | some ns =>
      rw [Style.text_of_behind? hbehind] at ha hb htags
      rw [Style.text_of_behind? hbehind] at htags
      obtain ⟨hroom, hparts⟩ := of_ofText_of_behind?_eq_some hbehind ha hshort
      obtain ⟨-, hparts'⟩ := of_ofText_of_behind?_eq_some hbehind hb hshort'
      rw [hparts, hparts', stem_append_eq_iff ha hb hroom htags]
      simp

/-- A long name with the marker inside and at its end. The one inside is found,
and the one at the end is put back. -/
def northern : String := "cart-idle-detection-for-the-northern-market-idle"

/-- Another one that begins in the same way, up to the marker inside. -/
def southern : String := "cart-idle-detection-for-the-southern-market-idle"

/-- Of both names `cart-shop-idle` is left. What would tell them apart
stood behind the marker inside. -/
theorem ofText_northern_southern :
    let style : Style := ⟨some "shop", true, true⟩
    let room := style.room serviceMaxLength
    northern ≠ southern ∧ room < (style.text northern).length ∧
    room < (style.text southern).length ∧ tag (style.text northern) ≠ tag (style.text southern) ∧
    ofText style northern serviceMaxLength = .ok "cart-shop-idle" ∧
    ofText style southern serviceMaxLength = .ok "cart-shop-idle" ∧
    ∃ cut, cut? northern room = some cut ∧ cut? southern room = some cut := by
  intro style room
  have hnorthern : room < (style.text northern).length := by decide
  have hsouthern : room < (style.text southern).length := by decide
  have htags : tag (style.text northern) ≠ tag (style.text southern) := by decide +kernel
  have hshort : ofText style northern serviceMaxLength = .ok "cart-shop-idle" := by decide +kernel
  have hshort' : ofText style southern serviceMaxLength = .ok "cart-shop-idle" := by decide +kernel
  exact ⟨by decide, hnorthern, hsouthern, htags, hshort, hshort',
    ((ofText_eq_iff hnorthern hsouthern htags hshort hshort').1 rfl).2⟩

end Name

end MultiTarget
