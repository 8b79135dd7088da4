import Mathlib
import MultiTarget.Proofs.HostLabel

/-!
# `MultiTarget.Proofs.HostLabel.Stability`: labels have the form of labels and stay

A label has at most 63 characters, each a small letter, a digit or a dash,
and no dash at either end (`IsLabel`). Characters of labels have that form
once they are fitted (`isLabel_fitted`): the cut comes between two drops, so
before it nothing begins with a dash, and behind it the dashes at the end are
dropped once more. What has that form is fitted as it is
(`IsLabel.fitted_eq`), and so a label is its own label.

Neither depends on how letters are made small, if no capital letter of ASCII
is left and texts in characters of labels are as they were (`Lowering`). What
letters beyond ASCII become may be more characters than before, and may depend
on the letters around them. The label of a text is one with such a lowering
(`ofText_eq_label`), and `ofText_makesLabels` is the result for both.
-/

set_option autoImplicit false

namespace MultiTarget.HostLabel

variable {text : String} {cs : List Char} {c : Char}

/-! ### The form of labels -/

/-- The form of a label. The empty text has it, since nothing is asked of how
short a label may be. -/
structure IsLabel (text : String) : Prop where
  length_le : text.length ≤ maxLength
  spelled : Spelled text
  head : text.toList.head? ≠ some '-'
  last : text.toList.getLast? ≠ some '-'

/-- Characters of labels are a label once they are fitted. The second drop is
needed for the end, and the first one for the beginning. -/
theorem isLabel_fitted (h : ∀ c ∈ cs, isLabelChar c = true) : IsLabel (fitted cs) where
  length_le := by
    rw [← String.length_toList, toList_fitted]
    exact (List.rdropWhile_prefix _ _).length_le.trans (List.length_take_le _ _)
  spelled := spelled_fitted h
  head hdash := by
    have hfirst := Text.head?_of_prefix_dropWhile (isPrefix_toList_fitted cs) '-' hdash
    exact of_decide_eq_false hfirst rfl
  last hdash := by
    -- The cut may be behind a dash, and then the second drop takes it.
    rw [toList_fitted] at hdash
    exact of_decide_eq_false (Text.getLast?_dropWhileEnd _ _ '-' hdash) rfl

/-- A label is fitted as it is: there is nothing to drop, and the cut is behind
its end. -/
theorem IsLabel.fitted_eq (h : IsLabel text) : fitted text.toList = text := by
  have hlength : text.toList.length ≤ maxLength := String.length_toList ▸ h.length_le
  have hbegin : ∀ c ∈ text.toList.head?, decide (c = '-') = false := fun c hc =>
    decide_eq_false fun heq => h.head (heq ▸ hc)
  have hend : ∀ c ∈ text.toList.getLast?, decide (c = '-') = false := fun c hc =>
    decide_eq_false fun heq => h.last (heq ▸ hc)
  rw [← String.toList_inj, toList_fitted, Text.dropWhile_eq_self hbegin,
    List.take_of_length_le hlength, Text.dropWhileEnd_eq_self hend]

/-- A way to make labels of texts: each has a label, which is its own label,
and no label is given up for another one. -/
structure MakesLabels (label : String → String) : Prop where
  isLabel (text : String) : IsLabel (label text)
  label_label (text : String) : label (label text) = label text
  eq_self {text : String} (h : IsLabel text) : label text = text

/-! ### Small letters -/

/-- A way to make the letters of a text small. It takes whole texts, because
the small form of a letter may depend on those around it. -/
structure Lowering where
  lower : String → String
  /-- No capital letter of ASCII is left. -/
  isUpper_lower : ∀ text, ∀ c ∈ (lower text).toList, c.isUpper = false
  /-- A text in characters of labels stays as it is. -/
  lower_eq : ∀ text, Spelled text → lower text = text

/-- Everything but letters and digits of ASCII and dashes becomes a dash, also
a letter beyond ASCII that is small already. -/
def hyphenate (c : Char) : Char := if c.isAlphanum || c = '-' then c else '-'

/-- The label of a text whose letters are made small first, whatever way to do
so is given. -/
def Lowering.label (lowering : Lowering) (text : String) : String :=
  fitted ((lowering.lower text).toList.map hyphenate)

/-- Without capital letters, what is not replaced are the characters of labels,
so the two tests come to the same. -/
theorem hyphenate_eq (h : c.isUpper = false) :
    hyphenate c = if isLabelChar c then c else '-' := by
  unfold hyphenate isLabelChar Char.isAlphanum Char.isAlpha
  rw [h, Bool.false_or]

/-- The characters of labels in numbers, by which they are compared with other
ranges of characters. -/
theorem isLabelChar_iff_toNat : isLabelChar c = true ↔
    (97 ≤ c.toNat ∧ c.toNat ≤ 122) ∨ (48 ≤ c.toNat ∧ c.toNat ≤ 57) ∨ c.toNat = 45 := by
  have hdash : c = '-' ↔ c.toNat = 45 := ⟨fun h => h ▸ rfl, fun h => Char.toNat_inj.1 h⟩
  simp [isLabelChar, Char.isLower, Char.isDigit, UInt32.le_iff_toNat_le, or_assoc, hdash]

/-- No capital letter is a character of labels, so a lowering has nothing to do
in a label. -/
theorem isUpper_eq_false (h : isLabelChar c = true) : c.isUpper = false := by
  have hbounds := isLabelChar_iff_toNat.1 h
  by_contra hupper
  have hcapital : 65 ≤ c.toNat ∧ c.toNat ≤ 90 := by
    simpa [Char.isUpper, UInt32.le_iff_toNat_le] using hupper
  omega

/-- A character of labels stays, so a label passes this step unchanged. -/
theorem hyphenate_eq_self (h : isLabelChar c = true) : hyphenate c = c := by
  rw [hyphenate_eq (isUpper_eq_false h), if_pos h]

/-- Without capital letters, every character becomes one of labels. A capital
letter would be kept as it is, so the hypothesis is needed. -/
theorem isLabelChar_hyphenate (h : c.isUpper = false) : isLabelChar (hyphenate c) = true := by
  rw [hyphenate_eq h]
  split
  · assumption
  · rfl

namespace Lowering

variable (lowering : Lowering)

/-- With any lowering, texts have labels. Of the lowering only the first law is
used. -/
theorem isLabel_label (text : String) : IsLabel (lowering.label text) := by
  refine isLabel_fitted fun d hd => ?_
  obtain ⟨c, hc, rfl⟩ := List.mem_map.1 hd
  exact isLabelChar_hyphenate (lowering.isUpper_lower text c hc)

/-- No step changes a text that is a label already. Of the lowering only the
second law is used. -/
theorem label_eq_self (h : IsLabel text) : lowering.label text = text := by
  -- The lowering knows the whole text, so it is asked for once and not by characters.
  have hkept : text.toList.map hyphenate = text.toList.map id :=
    List.map_congr_left fun c hc => hyphenate_eq_self (h.spelled c hc)
  rw [label, lowering.lower_eq text h.spelled, hkept, List.map_id, h.fitted_eq]

/-- Labels are made with any lowering. That a label is its own label follows
from the two facts before. -/
theorem makesLabels : MakesLabels lowering.label where
  isLabel := lowering.isLabel_label
  label_label text := lowering.label_eq_self (lowering.isLabel_label text)
  eq_self := lowering.label_eq_self

end Lowering

/-! ### The label of a text -/

/-- A character made small as far as it matters in a label: a letter beyond
ASCII stays, unless its small form begins with a letter of ASCII. -/
def small (c : Char) : List Char :=
  if c.toNat = 0x130 then ['i', Char.ofNat 0x307]
  else if c.toNat = 0x212A then ['k'] else [c.toLower]

/-- Nothing that is small is a capital letter of ASCII, which is the first law
of a lowering. -/
theorem isUpper_of_mem_small {d : Char} (h : d ∈ small c) : d.isUpper = false := by
  unfold small at h
  split at h
  · rcases List.mem_pair.1 h with rfl | rfl <;> rfl
  · split at h
    · exact List.mem_singleton.1 h ▸ rfl
    · exact List.mem_singleton.1 h ▸ Char.isUpper_toLower_eq_false c

/-- A character of labels is small, and stays one character. This is the second
law of a lowering, for one character. -/
theorem small_eq (h : isLabelChar c = true) : small c = [c] := by
  have hbounds := isLabelChar_iff_toNat.1 h
  have hlower : c.toLower = c := Char.toLower_eq_of_not_isUpper (by simp [isUpper_eq_false h])
  -- The two letters that are small in a form of their own have greater numbers.
  rw [small, if_neg (by omega), if_neg (by omega), hlower]

/-- The lowering that labels are made with. It goes character by character,
which the two laws allow. -/
def plainLowering : Lowering where
  lower text := String.ofList (text.toList.flatMap small)
  isUpper_lower text d hd := by
    rw [String.toList_ofList] at hd
    obtain ⟨c, -, hc⟩ := List.mem_flatMap.1 hd
    exact isUpper_of_mem_small hc
  lower_eq text h := by
    have hkept : text.toList.flatMap small = text.toList.flatMap fun c => [c] :=
      List.flatMap_congr fun c hc => small_eq (h c hc)
    rw [hkept, List.flatMap_singleton', String.ofList_toList]

/-- A character is spelled in a label as it is when small, with a dash in place
of what labels do not have. -/
theorem spell_eq (c : Char) : spell c = (small c).map hyphenate := by
  unfold spell small
  split
  · rfl
  · split
    · rfl
    · rw [List.map_singleton, hyphenate_eq (Char.isUpper_toLower_eq_false c)]
      exact (apply_ite (fun d => [d]) _ _ _).symm

/-- The label of a text is that with the lowering, so the general result
applies to it. -/
theorem ofText_eq_label : ofText = plainLowering.label := by
  funext text
  have hspelled : text.toList.flatMap spell = (text.toList.flatMap small).map hyphenate := by
    rw [List.map_flatMap]
    exact List.flatMap_congr fun c _ => spell_eq c
  rw [Lowering.label, plainLowering, String.toList_ofList, ← hspelled]
  rfl

/-- **Labels have the form of labels and stay.** The label of every text is
one, it is its own label, and so is every text that has the form of one. The
same holds with any other way to make letters small. -/
theorem ofText_makesLabels :
    MakesLabels ofText ∧ ∀ lowering : Lowering, MakesLabels lowering.label :=
  ⟨ofText_eq_label ▸ plainLowering.makesLabels, Lowering.makesLabels⟩

/-- The cut leaves a dash at the end, which is dropped. -/
example : ofText (String.ofList (List.replicate 62 'X') ++ " Web")
    = String.ofList (List.replicate 62 'x') := by decide

end MultiTarget.HostLabel
