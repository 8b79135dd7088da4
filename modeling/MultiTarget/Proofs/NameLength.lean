import MultiTarget.Proofs.Name

/-!
# `MultiTarget.Proofs.NameLength`: which names can be made

A name is made for a greatest length and never exceeds it
(`length_le_of_ofText`). A text that is too long is cut and ends with its
tag, so there must be room for the tag, and either limit of a platform
leaves room for it.

A namespace behind names takes its own length and that of the longest
marker from this room, before it is known whether the name must be cut at
all. What is left may be less than a tag needs; the name is refused then,
unless it fits into what is left (`Style.Crowds`). `exists_name_iff` says
that no other name is refused.
-/

set_option autoImplicit false

namespace MultiTarget.Name

open Outcome (bind_eq_ok)

/-! ### Shortening -/

variable {text name : String} {room maxLength : Nat} {error : ContentError}

/-- What is left of a text fits into the room, whether the text was cut or
not. -/
theorem length_le_of_shorten {short : String} (h : shorten text room = .ok short) :
    short.length ≤ room := by
  by_cases hlong : room < text.length
  · -- A text that is cut fills the room with its tag.
    obtain ⟨hroom, rfl⟩ := (shorten_eq_ok_iff hlong).1 h
    rw [← String.length_toList, String.toList_ofList]
    exact Nat.le_of_eq (length_kept hlong hroom)
  · have hfits : text.length ≤ room := Nat.not_lt.1 hlong
    rw [shorten, if_pos hfits] at h
    cases h
    exact hfits

/-- A text is refused if it is too long and its tag is too. The error names the
text and the room, and is the only one. -/
theorem shorten_eq_error_iff :
    shorten text room = .error error ↔
      (room < text.length ∧ room < digestLength) ∧ error = .cannotShortenName text room := by
  rw [shorten]
  -- By the length of the text, and then by the room.
  split
  · rename_i hfits
    simp [Nat.not_lt.2 hfits]
  · rename_i hlong
    split
    · rename_i hroom
      simpa [Nat.not_le.1 hlong, hroom] using eq_comm
    · rename_i hroom
      simp [hroom]

/-- A text is not refused where there is room for a tag. Either limit of a
platform has that room. -/
theorem shorten_ne_error (hroom : digestLength ≤ room) : shorten text room ≠ .error error := by
  intro h
  obtain ⟨⟨-, hless⟩, -⟩ := shorten_eq_error_iff.1 h
  omega

/-! ### Namespaces -/

/-- A namespace is put behind every name that can be shortened to the room that
is left for it. Nothing else can go wrong, since a cut at a marker always gives
something. -/
theorem withSuffix_eq_error_iff {ns : String} :
    withSuffix name ns maxLength = .error error ↔
      shorten name (maxLength - (ns.length + 1 + maxMarkerLength)) = .error error := by
  unfold withSuffix
  simp only [List.length_cons, String.length_toList]
  cases shorten name (maxLength - (ns.length + 1 + maxMarkerLength)) with
  | error error' => rfl
  | ok short =>
      -- What is left is put together with the namespace in either case.
      cases marker? name.toList <;> exact iff_of_false nofun nofun

/-- The namespace behind a name leaves too little room: less than a tag needs,
and less than the name has. The longest marker is counted with it, whether the
name has a marker or not. An empty name fits in any case. -/
def Style.Crowds (style : Style) (name : String) (maxLength : Nat) : Prop :=
  ∃ ns, style.behind? = some ns ∧
    maxLength < ns.length + 1 + maxMarkerLength + digestLength ∧
    name ≠ "" ∧ maxLength < name.length + 1 + ns.length + maxMarkerLength

variable {style : Style}

/-- The room for a name in front of a namespace is too little for it and for
its tag exactly if the namespace crowds it. One side speaks of lengths that a
reader can add up, the other of a difference that is cut off at zero. -/
theorem Style.crowds_iff {ns : String} (hbehind : style.behind? = some ns) :
    style.Crowds name maxLength ↔
      style.room maxLength < name.length ∧ style.room maxLength < digestLength := by
  have hroom : style.room maxLength = maxLength - (ns.length + 1 + maxMarkerLength) := by
    rw [Style.room, hbehind]
  have hempty : name ≠ "" ↔ 0 < name.length := by
    rw [Nat.pos_iff_ne_zero, ne_eq, ne_eq, String.length_eq_zero_iff]
  have htag : 0 < digestLength := by decide
  rw [hroom]
  constructor
  · rintro ⟨ns', hbehind', htag, hname, hlong⟩
    cases hbehind.symm.trans hbehind'
    rw [hempty] at hname
    -- The room is the difference, or none where the namespace alone exceeds the limit.
    omega
  · rintro ⟨hlong, hshort⟩
    exact ⟨ns, hbehind, by omega, hempty.2 (by omega), by omega⟩

/-! ### The whole name -/

/-- A name that is made keeps within the limit, in every style and for every
limit. -/
theorem length_le_of_ofText {full : String} (h : ofText style name maxLength = .ok full) :
    full.length ≤ maxLength := by
  rw [ofText_eq] at h
  split at h
  · obtain ⟨_, -, h⟩ := bind_eq_ok.1 h
    exact length_le_of_shorten h
  · exact length_le_of_shorten h

/-- Under a limit with room for a tag only a namespace that crowds a name keeps
it from being made. The error is about the first shortening, since the second
one never fails. -/
theorem ofText_eq_error_iff (hmax : digestLength ≤ maxLength) :
    ofText style name maxLength = .error error ↔
      style.Crowds name maxLength ∧ error = .cannotShortenName name (style.room maxLength) := by
  rw [ofText_eq]
  -- Without a namespace behind it a name is shortened to the limit, where there is room for its
  -- tag.
  cases hbehind : style.behind? with
  | none =>
      refine ⟨fun h => absurd h (shorten_ne_error hmax), ?_⟩
      rintro ⟨⟨ns, hbehind', -⟩, -⟩
      cases hbehind.symm.trans hbehind'
  | some ns =>
      -- With the namespace the name is shortened to the limit, which has room for a tag.
      have hfirst : (withSuffix name ns maxLength >>= (shorten · maxLength)) = .error error ↔
          withSuffix name ns maxLength = .error error := by
        cases withSuffix name ns maxLength with
        | error error' => rfl
        | ok full => exact ⟨fun h => absurd h (shorten_ne_error hmax), fun h => nomatch h⟩
      have hroom : maxLength - (ns.length + 1 + maxMarkerLength) = style.room maxLength := by
        rw [Style.room, hbehind]
      rw [hfirst, withSuffix_eq_error_iff, hroom, shorten_eq_error_iff, Style.crowds_iff hbehind]

/-- A name is made, within the limit, unless a namespace crowds it. So names
are refused for one reason only. -/
theorem exists_ofText_iff (hmax : digestLength ≤ maxLength) :
    (∃ full, ofText style name maxLength = .ok full ∧ full.length ≤ maxLength) ↔
      ¬ style.Crowds name maxLength := by
  cases h : ofText style name maxLength with
  | ok full =>
      refine iff_of_true ⟨full, rfl, length_le_of_ofText h⟩ fun hcrowds => ?_
      have herror := (ofText_eq_error_iff hmax).2 ⟨hcrowds, rfl⟩
      cases h.symm.trans herror
  | error error =>
      exact iff_of_false (fun ⟨full, hfull, _⟩ => nomatch hfull)
        (not_not.2 ((ofText_eq_error_iff hmax).1 h).1)

/-- **Which names can be made.** The names of a service and of an
application can be made in every style, with at most as many characters as
the platform allows, unless the namespace stands behind names and crowds
them. The error then says for how little room the name could not be
shortened. -/
theorem exists_name_iff (style : Style) (name : String) :
    ((∃ full, ofService style name = .ok full ∧ full.length ≤ 50) ↔
      ¬ style.Crowds name 50) ∧
    (∀ error, ofService style name = .error error →
      error = .cannotShortenName name (style.room 50)) ∧
    ((∃ full, ofApplication style name = .ok full ∧ full.length ≤ 1024) ↔
      ¬ style.Crowds name 1024) ∧
    ∀ error, ofApplication style name = .error error →
      error = .cannotShortenName name (style.room 1024) := by
  have hservice : digestLength ≤ serviceMaxLength := by decide
  have happlication : digestLength ≤ applicationMaxLength := by decide
  exact ⟨exists_ofText_iff hservice, fun _ h => ((ofText_eq_error_iff hservice).1 h).2,
    exists_ofText_iff happlication, fun _ h => ((ofText_eq_error_iff happlication).1 h).2⟩

/-- A namespace of usual length, which is too long to stand behind the name of
a service. -/
def portal : String := "com.acme.retail.customer-portal.production"

/-- A short name is refused in front of the namespace of the portal, though
both together would fit. Without the namespace, and behind it, the name is
made. -/
theorem ofService_portal :
    ¬ (∃ full, ofService ⟨some portal, true, true⟩ "db" = .ok full ∧
      full.length ≤ serviceMaxLength) ∧
    ofService ⟨some portal, true, true⟩ "db" = .error (.cannotShortenName "db" 1) ∧
    ("db-" ++ portal).length ≤ serviceMaxLength ∧
    ofService ⟨some portal, true, false⟩ "db" = .ok (portal ++ "-db") ∧
    ofService ⟨some portal, false, true⟩ "db" = .ok "db" := by
  have hrefused : ofService ⟨some portal, true, true⟩ "db"
      = .error (.cannotShortenName "db" 1) := by decide
  refine ⟨?_, hrefused, by decide, by decide, by decide⟩
  rintro ⟨full, hfull, -⟩
  cases hrefused.symm.trans hfull

end MultiTarget.Name
