import Mathlib.Data.List.DropRight
import MultiTarget.Text.Blank

/-!
# `MultiTarget.Proofs.Support.Trimmed`: text without white space at its ends

Dropping from one end stops at a character that fails the test
(`head?_of_prefix_dropWhile`, `getLast?_dropWhileEnd`). Trimming drops at both
ends as long as characters are blank, so what it leaves has none there
(`trimmed_trim`). It leaves such a text as it is, and drops the blanks that are
put behind it (`trim_append`).

These lemmas belong to no single part of a model, so this module sits
outside the modules for those parts.
-/

set_option autoImplicit false

namespace MultiTarget.Text

variable {cs blanks : List Char} {p : Char → Bool}

/-- Characters that all pass the test are dropped from the end, so what is left
depends on the text before them only. -/
theorem dropWhileEnd_append_of_forall {ds : List Char} (h : ∀ d ∈ ds, p d = true) :
    dropWhileEnd p (cs ++ ds) = dropWhileEnd p cs := by
  unfold dropWhileEnd
  rw [List.reverse_append, List.dropWhile_append_of_pos (by simpa using h)]

/-- What is left after dropping from the beginning has a first character that
fails the test, if it has one, however much is cut behind it. So the second
drop, at the end, cannot bring back a character at the beginning. -/
theorem head?_of_prefix_dropWhile {ds : List Char} (h : ds <+: cs.dropWhile p) :
    ∀ c ∈ ds.head?, p c = false := by
  intro c hc
  obtain ⟨dropped, hdropped⟩ := h
  obtain ⟨rest, hrest⟩ := List.head?_eq_some_iff.1 hc
  have hfirst := List.head?_dropWhile_not p cs
  rw [← hdropped, hrest] at hfirst
  exact hfirst

/-- Nothing is dropped from the beginning if the first character fails the
test. The condition also covers the empty text, which has none. -/
theorem dropWhile_eq_self (h : ∀ c ∈ cs.head?, p c = false) : cs.dropWhile p = cs := by
  cases cs with
  | nil => rfl
  | cons c rest => exact List.dropWhile_cons_of_neg (by simp [h c rfl])

/-- What is left after dropping from the end has a last character that fails
the test, if it has one. -/
theorem getLast?_dropWhileEnd (p : Char → Bool) (cs : List Char) :
    ∀ c ∈ (dropWhileEnd p cs).getLast?, p c = false := by
  intro c hc
  obtain ⟨hne, rfl⟩ := List.mem_getLast?_eq_getLast hc
  exact Bool.eq_false_iff.2 (List.rdropWhile_last_not p _ hne)

/-- Nothing is dropped from the end if the last character fails the test, or if
there is no character. -/
theorem dropWhileEnd_eq_self (h : ∀ c ∈ cs.getLast?, p c = false) : dropWhileEnd p cs = cs :=
  List.rdropWhile_eq_self_iff.2 fun hne => by simp [h _ (List.getLast?_eq_some_getLast hne)]

/-- Neither the first character nor the last one is blank. The conditions are
about characters that need not exist, so the empty text is trimmed. -/
structure Trimmed (cs : List Char) : Prop where
  head : ∀ c ∈ cs.head?, isBlank c = false
  last : ∀ c ∈ cs.getLast?, isBlank c = false

/-- What is left after trimming has no blanks at its ends. Trimming drops at
the beginning first, so the first field looks through the second drop. -/
theorem trimmed_trim (cs : List Char) : Trimmed (trim cs) where
  head := head?_of_prefix_dropWhile (List.rdropWhile_prefix _ _)
  last := getLast?_dropWhileEnd _ _

/-- No digit is blank. Blanks are told by ranges of code points, so the proof
compares those with the range of the digits. -/
theorem isBlank_of_isDigit {c : Char} (h : c.isDigit = true) : isBlank c = false := by
  have hbounds : 48 ≤ c.toNat ∧ c.toNat ≤ 57 := Char.isDigit_iff_toNat.1 h
  simp [isBlank]
  omega

/-- A run of digits has no blanks at its ends; it may be empty. -/
theorem trimmed_of_isDigit (h : ∀ c ∈ cs, c.isDigit = true) : Trimmed cs where
  head c hc := isBlank_of_isDigit (h c (List.mem_of_mem_head? hc))
  last c hc := isBlank_of_isDigit (h c (List.mem_of_mem_getLast? hc))

namespace Trimmed

variable {ds : List Char}

/-- Two texts together have the beginning of the first one and the end of the
second one. If one of them is empty, the ends are those of the other. -/
theorem append (h : Trimmed cs) (hd : Trimmed ds) : Trimmed (cs ++ ds) where
  head c hc := by
    rw [List.head?_append] at hc
    -- The first text decides unless it is empty.
    rcases Option.or_eq_some_iff.1 hc with hcs | ⟨-, hds⟩
    · exact h.head c hcs
    · exact hd.head c hds
  last c hc := by
    rw [List.getLast?_append] at hc
    rcases Option.or_eq_some_iff.1 hc with hds | ⟨-, hcs⟩
    · exact hd.last c hds
    · exact h.last c hcs

/-- Blanks behind a text without any at its ends are dropped, and nothing else.
The text may be empty, in which case all of the blanks are dropped from the
beginning. -/
theorem trim_append (h : Trimmed cs) (hblanks : ∀ d ∈ blanks, isBlank d = true) :
    trim (cs ++ blanks) = cs := by
  cases cs with
  | nil =>
      have hnil : blanks.dropWhile isBlank = [] := List.dropWhile_eq_nil_iff.2 hblanks
      rw [List.nil_append, trim, stripBoth, hnil]
      rfl
  | cons c rest =>
      have hfirst : ∀ d ∈ (c :: rest ++ blanks).head?, isBlank d = false := h.head
      rw [trim, stripBoth, dropWhile_eq_self hfirst, dropWhileEnd_append_of_forall hblanks]
      exact dropWhileEnd_eq_self h.last

/-- A text without blanks at its ends stays as it is, the case of `trim_append`
without blanks. -/
theorem trim_eq (h : Trimmed cs) : trim cs = cs := by
  have hnone : ∀ d ∈ ([] : List Char), isBlank d = true := by simp
  simpa using h.trim_append hnone

end Trimmed

end MultiTarget.Text
