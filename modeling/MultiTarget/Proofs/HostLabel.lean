import Mathlib.Data.List.DropRight
import MultiTarget.HostLabel
import MultiTarget.Proofs.Support.Trimmed

/-!
# `MultiTarget.Proofs.HostLabel`: what truncation leaves of a label

A label is what remains of a spelled text after dashes are taken from both
ends and what is too long is cut off (`fitted`). `spelling` is the text with
the dashes at its beginning gone, before anything is cut at its end.

* `toList_ofText`: the label is the spelling, cut to the greatest length,
  without dashes at its end.
* `spelled_ofText`: a label has characters of labels only, so a dot behind
  it is the first one (`Spelled.append_dot_inj`).
* `ofText_eq_ofText_idle_iff`: the marker of idle hosts stands behind the
  text, so a spelling that fills the label up to its last character or
  further leaves nothing of the marker but its dash.
-/

set_option autoImplicit false

namespace MultiTarget

namespace Text

variable {p : Char → Bool}

/-- Nothing is dropped behind a character that fails the test, so what stands
before such an end stays as a whole. -/
theorem dropWhileEnd_append_of_neg {cs : List Char} {c : Char} (h : p c = false)
    (before : List Char) (hlast : cs.getLast? = some c) :
    dropWhileEnd p (before ++ cs) = before ++ cs := by
  obtain ⟨init, rfl⟩ := List.getLast?_eq_some_iff.1 hlast
  rw [← List.append_assoc]
  exact List.rdropWhile_concat_neg p _ c (by simp [h])

/-- Characters dropped from the end before a cut would be dropped after it, so
a text need be trimmed at its end only once. -/
theorem dropWhileEnd_take_dropWhileEnd (p : Char → Bool) (n : Nat) (cs : List Char) :
    dropWhileEnd p ((dropWhileEnd p cs).take n) = dropWhileEnd p (cs.take n) := by
  obtain ⟨ds, hcs, hds⟩ : ∃ ds, cs = dropWhileEnd p cs ++ ds ∧ ∀ d ∈ ds, p d = true :=
    ⟨cs.rtakeWhile p, List.rdropWhile_append_rtakeWhile.symm, fun _ => List.mem_rtakeWhile_imp⟩
  conv_rhs => rw [hcs, List.take_append]
  exact (dropWhileEnd_append_of_forall fun d hd => hds d (List.mem_of_mem_take hd)).symm

end Text

namespace HostLabel

/-- A text as it is spelled in a label, without dashes at its beginning. Its
length is what decides how much of it fits in. -/
def spelling (text : String) : List Char :=
  (text.toList.flatMap spell).dropWhile (· = '-')

/-- Characters without dashes at their ends, cut to the greatest length of a
label. The cut may be behind a dash, so dashes are dropped again. -/
def fitted (cs : List Char) : String :=
  String.ofList (Text.dropWhileEnd (· = '-') ((Text.stripBoth (· = '-') cs).take maxLength))

/-- The dashes at the end need be dropped only once, after the cut: those at
the end of the whole text are at the end of what is cut, or the cut takes them
off. -/
theorem toList_fitted (cs : List Char) : (fitted cs).toList
    = Text.dropWhileEnd (· = '-') ((cs.dropWhile (· = '-')).take maxLength) := by
  unfold fitted Text.stripBoth
  rw [String.toList_ofList]
  exact Text.dropWhileEnd_take_dropWhileEnd _ _ _

/-- What is fitted is the beginning of the characters from the first one on
that is not a dash. -/
theorem isPrefix_toList_fitted (cs : List Char) :
    (fitted cs).toList <+: cs.dropWhile (· = '-') := by
  rw [toList_fitted]
  exact (List.rdropWhile_prefix _ _).trans (List.take_prefix _ _)

/-- The label is the spelling, cut to the greatest length, without dashes at
its end. All statements about labels of texts start with this form. -/
theorem toList_ofText (text : String) :
    (ofText text).toList = Text.dropWhileEnd (· = '-') ((spelling text).take maxLength) :=
  toList_fitted _

/-- Every character is spelled with characters of labels: itself, its small
form, or a dash in its place. -/
theorem isLabelChar_of_mem_spell {c d : Char} (h : d ∈ spell c) : isLabelChar d = true := by
  unfold spell at h
  split at h
  · rcases List.mem_cons.1 h with rfl | h
    · rfl
    · exact List.mem_singleton.1 h ▸ rfl
  · split at h
    · exact List.mem_singleton.1 h ▸ rfl
    · split at h
      · rename_i hlabel
        exact List.mem_singleton.1 h ▸ hlabel
      · exact List.mem_singleton.1 h ▸ rfl

/-- A text has characters of labels only. It may begin or end with a dash and
be of any length, so it need not be a label. -/
def Spelled (label : String) : Prop := ∀ c ∈ label.toList, isLabelChar c = true

/-- Fitting brings in no other characters, since it only takes some away. -/
theorem spelled_fitted {cs : List Char} (h : ∀ c ∈ cs, isLabelChar c = true) :
    Spelled (fitted cs) := fun c hc =>
  h c ((List.dropWhile_sublist _).subset ((isPrefix_toList_fitted cs).subset hc))

/-- The label of a text has characters of labels only, so it has no dot and
begins no placeholder. -/
theorem spelled_ofText (text : String) : Spelled (ofText text) := by
  refine spelled_fitted fun d hd => ?_
  obtain ⟨c, -, hc⟩ := List.mem_flatMap.1 hd
  exact isLabelChar_of_mem_spell hc

/-- A label has no other characters, in particular no dot and no brace. So it
is one part of a route and has no placeholder. -/
theorem Spelled.notMem {label : String} (h : Spelled label) {c : Char}
    (hc : isLabelChar c = false) : c ∉ label.toList := by
  intro hmem
  rw [h c hmem] at hc
  cases hc

/-- Lists that are equal up to a separator that does not stand before it are
equal on both sides of it. -/
theorem append_cons_inj_of_notMem {c : Char} {xs ys xs' ys' : List Char} (hx : c ∉ xs)
    (hy : c ∉ ys) : xs ++ c :: xs' = ys ++ c :: ys' ↔ xs = ys ∧ xs' = ys' := by
  induction xs generalizing ys with
  | nil => cases ys <;> grind
  | cons x xs ih => cases ys <;> grind

/-- The dot behind a label is the first one, so two routes are equal exactly if
their labels and the rests are. -/
theorem Spelled.append_dot_inj {label label' rest rest' : String} (h : Spelled label)
    (h' : Spelled label') :
    label ++ "." ++ rest = label' ++ "." ++ rest' ↔ label = label' ∧ rest = rest' := by
  have hdot : '.' ∉ label.toList := h.notMem (by decide)
  have hdot' : '.' ∉ label'.toList := h'.notMem (by decide)
  rw [← String.toList_inj, ← String.toList_inj, ← String.toList_inj]
  simpa using append_cons_inj_of_notMem hdot hdot'

/-! ### The marker of idle hosts -/

/-- The marker is spelled as it is. Without anything but dashes before it, it
loses its own dash. -/
theorem spelling_append_idle (text : String) :
    spelling (text ++ "-idle")
      = if spelling text = [] then "idle".toList else spelling text ++ "-idle".toList := by
  unfold spelling
  have hidle : "-idle".toList.flatMap spell = "-idle".toList := by decide
  rw [String.toList_append, List.flatMap_append, hidle, List.dropWhile_append]
  by_cases h : (text.toList.flatMap spell).dropWhile (· = '-') = []
  · simp [h]
  · simp [h]

/-- Of the marker, more than its dash ends with a letter, so a cut behind that
is not trimmed. -/
theorem getLast?_take_idle {n : Nat} (h : 2 ≤ n) :
    ∃ c, ("-idle".toList.take n).getLast? = some c ∧ c ≠ '-' := by
  match n, h with
  | 2, _ => exact ⟨'i', by decide, by decide⟩
  | 3, _ => exact ⟨'d', by decide, by decide⟩
  | 4, _ => exact ⟨'l', by decide, by decide⟩
  | n + 5, _ =>
      refine ⟨'e', ?_, by decide⟩
      rw [List.take_of_length_le (show "-idle".toList.length ≤ n + 5 from Nat.le_add_left 5 n)]
      decide

/-- A marker of which more than the dash fits in makes a label longer.
Comparing lengths is enough to tell the two labels apart. -/
theorem length_ofText_lt (text : String) (h : (spelling text).length < 62) :
    (ofText text).toList.length < (ofText (text ++ "-idle")).toList.length := by
  have hlive : (ofText text).toList.length ≤ (spelling text).length :=
    (isPrefix_toList_fitted _).length_le
  refine Nat.lt_of_le_of_lt hlive ?_
  rw [toList_ofText, spelling_append_idle]
  -- If nothing but dashes stands before the marker, its letters are the whole label.
  split
  · rename_i hnil
    rw [hnil]
    decide
  · have hroom : 2 ≤ maxLength - (spelling text).length := by
      unfold maxLength
      omega
    obtain ⟨c, hlast, hc⟩ := getLast?_take_idle hroom
    rw [List.take_append, List.take_of_length_le (by unfold maxLength; omega),
      Text.dropWhileEnd_append_of_neg (by simpa using hc) _ hlast, List.length_append]
    have hpos : 0 < ("-idle".toList.take (maxLength - (spelling text).length)).length :=
      List.length_pos_of_mem (List.mem_of_getLast? hlast)
    omega

/-- **When the marker of idle hosts is lost.** A text and the text with the
marker have one label exactly if no more than the dash of the marker fits in,
for a dash at the end of a label is dropped. -/
theorem ofText_eq_ofText_idle_iff (text : String) :
    ofText text = ofText (text ++ "-idle") ↔ 62 ≤ (spelling text).length := by
  constructor
  · intro heq
    -- A shorter spelling gives labels of different lengths.
    by_contra hlt
    have hshorter := length_ofText_lt text (by omega)
    rw [← heq] at hshorter
    exact Nat.lt_irrefl _ hshorter
  · intro hfull
    have hne : spelling text ≠ [] := List.ne_nil_of_length_pos (by omega)
    rw [← String.toList_inj, toList_ofText, toList_ofText, spelling_append_idle, if_neg hne,
      List.take_append]
    refine (Text.dropWhileEnd_append_of_forall fun d hd => ?_).symm
    -- At most one more character fits in, the dash.
    have hone : d ∈ "-idle".toList.take 1 :=
      (List.take_subset_take_left _ (by unfold maxLength; omega)) hd
    exact decide_eq_true (List.mem_singleton.1 hone)

end HostLabel

end MultiTarget
