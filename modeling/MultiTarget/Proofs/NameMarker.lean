import MultiTarget.Proofs.NameLength

/-!
# `MultiTarget.Proofs.NameMarker`: a namespace before the marker

A namespace behind a name stands before the marker of a blue-green
deployment. The name is shortened first, to a room that leaves place for the
namespace and the longest marker. So what is put together needs no second
shortening, and namespace and marker are both whole at the end of it.

* `outcome_withSuffix`: what stands before the namespace fits into the room,
  and a name that fits itself only loses its marker there. The last marker
  of such a name is the one at its end.
* `ofText_placed`: the whole name, and when there is one.
-/

set_option autoImplicit false

namespace MultiTarget.Name

open Outcome (bind_eq_ok)

/-- A name ends with a marker, or with none and the marker is empty. Every name
has exactly one marker in this sense. -/
def MarkedBy (name marker : String) : Prop :=
  (marker ∈ ["-idle", "-blue", "-green"] ∧ marker.toList <:+ name.toList) ∨
    (marker = "" ∧ ∀ other ∈ ["-idle", "-blue", "-green"], ¬ other.toList <:+ name.toList)

variable {name marker ns full : String} {room maxLength : Nat}

/-- A marker that is found is one, and the name ends with it. -/
theorem of_marker?_eq_some {cs found : List Char} (h : marker? cs = some found) :
    found ∈ markers ∧ found <:+ cs := by
  unfold marker? at h
  have htest := List.find?_some h
  exact ⟨List.mem_of_find?_eq_some h, List.isSuffixOf_iff_suffix.1 htest⟩

/-- The marker of a name is what it is taken to end with. The markers are
looked for in some order, but a name ends with one of them at most. -/
theorem MarkedBy.ending_eq (h : MarkedBy name marker) : ending name = marker.toList := by
  unfold ending
  -- A marker that the name has is found; without one nothing is.
  rcases h with ⟨hmem, hsuffix⟩ | ⟨rfl, hnone⟩
  · have hmarker : marker.toList ∈ markers := List.mem_map_of_mem (f := String.toList) hmem
    have hsome : (marker? name.toList).isSome = true :=
      List.find?_isSome.2 ⟨_, hmarker, List.isSuffixOf_iff_suffix.2 hsuffix⟩
    obtain ⟨found, hfound⟩ := Option.isSome_iff_exists.1 hsome
    obtain ⟨hmem, hends⟩ := of_marker?_eq_some hfound
    rw [hfound, Option.getD_some]
    exact eq_of_isSuffix_of_mem_markers hmem hmarker hends hsuffix
  · have hfound : marker? name.toList = none := by
      refine List.find?_eq_none.2 fun found hfound hends => ?_
      obtain ⟨other, hother, rfl⟩ :=
        List.mem_map.1 (show found ∈ ["-idle", "-blue", "-green"].map String.toList from hfound)
      exact hnone other hother (List.isSuffixOf_iff_suffix.1 hends)
    rw [hfound]
    rfl

/-- What stands before a namespace behind a name: it fits into the room that is
left, and of a name that fits itself nothing but the marker is missing. The
second half needs that the last marker of a name is the one at its end. -/
theorem outcome_withSuffix (hroom : maxLength - (ns.length + 1 + maxMarkerLength) = room)
    (h : withSuffix name ns maxLength = .ok full) :
    ∃ front, full.toList = front ++ '-' :: ns.toList ++ ending name ∧ front.length ≤ room ∧
      (name.length ≤ room → name.toList = front ++ ending name) := by
  unfold withSuffix at h
  obtain ⟨short, hshort, hfull⟩ := bind_eq_ok.1 h
  rw [List.length_cons, String.length_toList, hroom] at hshort
  have hlength : short.toList.length ≤ room :=
    String.length_toList ▸ length_le_of_shorten hshort
  have hsame : name.length ≤ room → short = name := by
    intro hfits
    rw [shorten, if_pos hfits] at hshort
    exact (Except.ok.inj hshort).symm
  -- By the marker of the name, and then by whether it is still in what is left.
  unfold ending
  cases hmarker : marker? name.toList with
  | none =>
      rw [hmarker] at hfull
      cases hfull
      refine ⟨short.toList, by simp, hlength, fun hfits => ?_⟩
      rw [hsame hfits, Option.getD_none, List.append_nil]
  | some marker =>
      rw [hmarker] at hfull
      cases hfull
      obtain ⟨hmem, front, hfront⟩ := of_marker?_eq_some hmarker
      have hne : marker ≠ [] := by
        have hmarkers : ∀ marker ∈ markers, marker ≠ [] := by decide
        exact hmarkers marker hmem
      have hcut : name.length ≤ room → Text.cutLast? marker short.toList = some (front, []) := by
        intro hfits
        rw [hsame hfits, ← hfront]
        exact Text.cutLast?_append_self hne front
      cases hparts : Text.cutLast? marker short.toList with
      | none =>
          refine ⟨short.toList, by simp, hlength, fun hfits => ?_⟩
          cases hparts.symm.trans (hcut hfits)
      | some parts =>
          obtain ⟨before, after⟩ := parts
          have hbefore : before.length ≤ short.toList.length :=
            (Text.isPrefix_of_cutLast? hparts).length_le
          refine ⟨before, by simp, hbefore.trans hlength, fun hfits => ?_⟩
          obtain ⟨rfl, -⟩ : before = front ∧ after = [] := by
            simpa using hparts.symm.trans (hcut hfits)
          exact hfront.symm

/-- A namespace that is not empty stands behind names if it shall. -/
theorem Style.behind?_eq_some (hns : ns ≠ "") :
    (⟨some ns, true, true⟩ : Style).behind? = some ns := by
  simp [Style.behind?, Style.applied?, hns]

/-- The room for a name before such a namespace and the longest marker, with a
dash between name and namespace: that and the marker are the seven
characters. -/
theorem Style.room_behind (hns : ns ≠ "") (maxLength : Nat) :
    (⟨some ns, true, true⟩ : Style).room maxLength = maxLength - ns.length - 7 := by
  rw [Style.room, behind?_eq_some hns, Nat.sub_sub]
  rfl

/-- With room for a namespace and the longest marker a name is made if it fits
into the rest, or can be shortened to it. Shortening needs the eight characters
of a tag. -/
theorem exists_ofText_behind_iff (hns : ns ≠ "") (hroom : ns.length + 7 ≤ maxLength) :
    (∃ full, ofText ⟨some ns, true, true⟩ name maxLength = .ok full) ↔
      name.length ≤ maxLength - ns.length - 7 ∨ 8 ≤ maxLength - ns.length - 7 := by
  have hpos : 0 < ns.length := Nat.pos_of_ne_zero (mt String.length_eq_zero_iff.1 hns)
  have htag : digestLength ≤ maxLength := by
    rw [digestLength]
    omega
  -- Whatever is made keeps within the limit, so this need not be asked.
  have hmade : (∃ full, ofText ⟨some ns, true, true⟩ name maxLength = .ok full) ↔
      ∃ full, ofText ⟨some ns, true, true⟩ name maxLength = .ok full ∧ full.length ≤ maxLength :=
    exists_congr fun _ => (and_iff_left_of_imp length_le_of_ofText).symm
  rw [hmade, exists_ofText_iff htag, Style.crowds_iff (Style.behind?_eq_some hns),
    Style.room_behind hns, digestLength]
  omega

/-- The parts of such a name. It is shortened before they are put together, and
not again, so namespace and marker are whole. -/
theorem outcome_ofText_behind (hns : ns ≠ "") (hroom : ns.length + 7 ≤ maxLength)
    (h : ofText ⟨some ns, true, true⟩ name maxLength = .ok full) :
    ∃ front, full.toList = front ++ '-' :: ns.toList ++ ending name ∧
      (name.length ≤ maxLength - ns.length - 7 → name.toList = front ++ ending name) := by
  rw [ofText_eq, Style.behind?_eq_some hns] at h
  obtain ⟨whole, hwhole, hshort⟩ := bind_eq_ok.1 h
  have hrest : maxLength - (ns.length + 1 + maxMarkerLength) = maxLength - ns.length - 7 := by
    rw [Nat.sub_sub]
    rfl
  obtain ⟨front, hparts, hlength, hfits⟩ := outcome_withSuffix hrest hwhole
  -- Room was left for all that stands behind the front.
  have hwithin : whole.length ≤ maxLength := by
    have hending : (ending name).length ≤ 6 := length_ending_le name
    rw [← String.length_toList, hparts, List.length_append, List.length_append,
      List.length_cons, String.length_toList]
    omega
  rw [shorten, if_pos hwithin] at hshort
  cases hshort
  exact ⟨front, hparts, hfits⟩

/-- **Where a namespace is put.** Let a namespace that is not empty stand
behind names, and let the greatest length leave room for it and the longest
marker. A name that fits into the rest, or that can be shortened to it, is
made, and no other. What is made keeps within the greatest length and ends with
the namespace and the marker of the name. If the name fits into the rest, what
stands before is the name without its marker.

Of a longer name it is not said what stands before: a marker inside of it may
have taken more away. -/
theorem ofText_placed (ns name marker : String) (maxLength : Nat) (hns : ns ≠ "")
    (hroom : ns.length + 7 ≤ maxLength) (hmarker : MarkedBy name marker) :
    ((∃ full, ofText ⟨some ns, true, true⟩ name maxLength = .ok full) ↔
      name.length ≤ maxLength - ns.length - 7 ∨ 8 ≤ maxLength - ns.length - 7) ∧
    ∀ full, ofText ⟨some ns, true, true⟩ name maxLength = .ok full →
      full.length ≤ maxLength ∧ ∃ front, full = front ++ "-" ++ ns ++ marker ∧
        (name.length ≤ maxLength - ns.length - 7 → name = front ++ marker) := by
  refine ⟨exists_ofText_behind_iff hns hroom, fun full h => ⟨length_le_of_ofText h, ?_⟩⟩
  obtain ⟨front, hparts, hfits⟩ := outcome_ofText_behind hns hroom h
  rw [hmarker.ending_eq] at hparts hfits
  refine ⟨String.ofList front, ?_, fun hname => ?_⟩
  · rw [← String.toList_inj, hparts]
    simp
  · rw [← String.toList_inj, hfits hname]
    simp

/-- A long name is cut at the marker inside it and gets the marker at its end
back. A name that fits keeps all its characters before the marker, whatever
they are. -/
theorem ofText_placed_northern :
    MarkedBy northern "-idle" ∧ 4 + 7 ≤ serviceMaxLength ∧ MarkedBy "größe-blue" "-blue" ∧
    (∃ full front, ofText ⟨some "shop", true, true⟩ northern serviceMaxLength = .ok full ∧
      full = front ++ "-" ++ "shop" ++ "-idle" ∧ full = "cart-shop-idle" ∧
      ¬ northern.length ≤ serviceMaxLength - 4 - 7) ∧
    ∃ full front, ofText ⟨some "shop", true, true⟩ "größe-blue" serviceMaxLength = .ok full ∧
      full = front ++ "-" ++ "shop" ++ "-blue" ∧ "größe-blue" = front ++ "-blue" ∧
      full = "größe-shop-blue" := by
  have hlong : MarkedBy northern "-idle" := .inl ⟨by decide, by decide⟩
  have hshort : MarkedBy "größe-blue" "-blue" := .inl ⟨by decide, by decide⟩
  have hroom : "shop".length + 7 ≤ serviceMaxLength := by decide
  have hnorthern : ofText ⟨some "shop", true, true⟩ northern serviceMaxLength
      = .ok "cart-shop-idle" := by decide +kernel
  have hgroesse : ofText ⟨some "shop", true, true⟩ "größe-blue" serviceMaxLength
      = .ok "größe-shop-blue" := by decide +kernel
  obtain ⟨-, hplaced⟩ := ofText_placed "shop" northern "-idle" _ (by decide) hroom hlong
  obtain ⟨-, front, hfront, -⟩ := hplaced _ hnorthern
  obtain ⟨-, hplaced⟩ := ofText_placed "shop" "größe-blue" "-blue" _ (by decide) hroom hshort
  obtain ⟨-, front', hfront', hfits⟩ := hplaced _ hgroesse
  exact ⟨hlong, hroom, hshort, ⟨_, front, hnorthern, hfront, rfl, by decide⟩,
    _, front', hgroesse, hfront', hfits (by decide), rfl⟩

end MultiTarget.Name
