import Mathlib.Data.List.Basic
import MultiTarget.Template
import MultiTarget.Uri

/-!
# `MultiTarget.Proofs.Template`: substitution a piece at a time

A token lies inside braces and holds letters and dashes. So a text can be
cut wherever no token can reach across, and each piece be substituted by
itself.

* `substitute_append_of_notMem`: without an opening brace no token begins,
  and the text stays as it is.
* `resolveFrom_append_cons`: a character that stands in no token ends
  every token before it. The separator of a scheme is an instance
  (`substitute_withScheme`).
-/

set_option autoImplicit false

namespace MultiTarget.Template

open Placeholder (Values)

variable {values : Values} {c : Char} {xs ys : List Char}

/-- The characters that stand for the segments of a text after the next `skip`
characters. The number is what is left of a token that has been found, and
proofs by induction carry it along. -/
def resolveFrom (values : Values) (skip : Nat) (cs : List Char) : List Char :=
  (segmentsFrom skip cs).flatMap (Segment.resolve values)

/-- A text with values in place is made of the characters of its segments. It
leads from texts to lists, where all inductions are. -/
theorem toList_substitute (values : Values) (text : String) :
    (substitute values text).toList = resolveFrom values 0 text.toList := by
  unfold substitute join parse resolveFrom
  rw [String.toList_ofList]

/-- A character put before segments is put before what they stand for, as long
as literals stand for themselves. Values and the text itself are two such views
of segments. -/
theorem flatMap_push {f : Segment → List Char} (hliteral : ∀ text, f (.literal text) = text)
    (c : Char) (segments : List Segment) :
    (Segment.push c segments).flatMap f = c :: segments.flatMap f := by
  cases segments with
  | nil => simp [Segment.push, hliteral]
  | cons segment rest => cases segment <;> simp [Segment.push, hliteral]

theorem resolve_push (values : Values) (c : Char) (segments : List Segment) :
    (Segment.push c segments).flatMap (Segment.resolve values)
      = c :: segments.flatMap (Segment.resolve values) :=
  flatMap_push (fun _ => rfl) c segments

/-- A character at which no token begins is put into a literal. It is one of
the two steps through a text. -/
theorem segmentsFrom_zero_of_none (h : Placeholder.atStart? (c :: xs) = none) :
    segmentsFrom 0 (c :: xs) = Segment.push c (segmentsFrom 0 xs) := by
  rw [segmentsFrom, h]

/-- A character at which no token begins stays, and what follows is substituted
by itself. -/
theorem resolveFrom_zero_of_none (h : Placeholder.atStart? (c :: xs) = none) :
    resolveFrom values 0 (c :: xs) = c :: resolveFrom values 0 xs := by
  unfold resolveFrom
  rw [segmentsFrom_zero_of_none h, resolve_push]

/-- A token that a text begins with makes way for its value, and the rest of it
is passed over. -/
theorem resolveFrom_zero_of_some {named : Placeholder}
    (h : Placeholder.atStart? (c :: xs) = some named) :
    resolveFrom values 0 (c :: xs)
      = (Segment.placeholder named).resolve values
        ++ resolveFrom values (named.token.length - 1) xs := by
  unfold resolveFrom
  rw [segmentsFrom, h]
  rfl

/-- No token begins without an opening brace, so most characters need no
search. -/
theorem atStart?_eq_none (hc : c ≠ '\x7b') : Placeholder.atStart? (c :: xs) = none := by
  unfold Placeholder.atStart?
  rw [List.find?_eq_none]
  intro named _ hprefix
  obtain ⟨rest, hrest⟩ := List.isPrefixOf_iff_prefix.1 hprefix
  exact hc (List.cons.inj hrest).1.symm

/-- A text begins with the token that is found at its start. -/
theorem token_prefix_of_atStart? {named : Placeholder}
    (h : Placeholder.atStart? xs = some named) : named.token <+: xs := by
  unfold Placeholder.atStart? at h
  have hfound := List.find?_some h
  exact List.isPrefixOf_iff_prefix.1 hfound

/-- A text without an opening brace stays as it is in front of another one, and
does not change what becomes of this. -/
theorem resolveFrom_append_of_notMem (h : '\x7b' ∉ xs) :
    resolveFrom values 0 (xs ++ ys) = xs ++ resolveFrom values 0 ys := by
  -- On the text in front: none of its characters begins a token.
  induction xs with
  | nil => rfl
  | cons x xs ih =>
      obtain ⟨hx, hxs⟩ := not_or.1 (mt List.mem_cons.2 h)
      rw [List.cons_append, resolveFrom_zero_of_none (atStart?_eq_none (Ne.symm hx)), ih hxs]
      rfl

/-- A prefix without a character lies before it. It keeps a token from reaching
over a character that stands in none. -/
theorem prefix_append_cons_iff {token : List Char} (hc : c ∉ token) :
    token <+: xs ++ c :: ys ↔ token <+: xs := by
  refine ⟨fun h => ?_, fun h => h.trans (List.prefix_append _ _)⟩
  have hnext : xs ++ [c] <+: xs ++ c :: ys := ⟨ys, by simp⟩
  rcases List.prefix_or_prefix_of_prefix h hnext with hshort | hlong
  · rcases List.prefix_concat_iff.1 hshort with rfl | hshort
    · exact absurd (by simp) hc
    · exact hshort
  · exact absurd (hlong.subset (by simp)) hc

/-- Which token a text begins with does not depend on what comes after a
character that stands in no token. -/
theorem atStart?_append_cons (hc : ∀ named : Placeholder, c ∉ named.token) :
    Placeholder.atStart? (xs ++ c :: ys) = Placeholder.atStart? xs := by
  refine congrArg (List.find? · Placeholder.all) (funext fun named => ?_)
  rw [Bool.eq_iff_iff, List.isPrefixOf_iff_prefix, List.isPrefixOf_iff_prefix]
  exact prefix_append_cons_iff (hc named)

/-- A text falls into two at a character that stands in no token. The number of
characters to be passed over must not reach beyond it. -/
theorem resolveFrom_append_cons (hc : ∀ named : Placeholder, c ∉ named.token) {skip : Nat}
    (hskip : skip ≤ xs.length) :
    resolveFrom values skip (xs ++ c :: ys)
      = resolveFrom values skip xs ++ c :: resolveFrom values 0 ys := by
  -- On the text in front. A token that begins in it ends in it, and leaves less to be passed over
  -- than there is.
  induction xs generalizing skip with
  | nil =>
      obtain rfl : skip = 0 := Nat.le_zero.1 hskip
      have hbrace : c ≠ '\x7b' := fun h => hc .protocol (h ▸ List.mem_cons_self)
      exact resolveFrom_zero_of_none (atStart?_eq_none hbrace)
  | cons x xs ih =>
      match skip with
      | skip + 1 => exact ih (Nat.le_of_succ_le_succ hskip)
      | 0 =>
          have hstart : Placeholder.atStart? (x :: xs ++ c :: ys)
              = Placeholder.atStart? (x :: xs) := atStart?_append_cons hc
          rw [List.cons_append] at hstart ⊢
          cases h : Placeholder.atStart? (x :: xs) with
          | none =>
              rw [resolveFrom_zero_of_none (hstart.trans h), resolveFrom_zero_of_none h,
                ih (Nat.zero_le _)]
              rfl
          | some named =>
              -- The token ends before the character.
              have hlength : named.token.length - 1 ≤ xs.length := by
                have hlong := (token_prefix_of_atStart? h).length_le
                exact Nat.sub_le_of_le_add hlong
              rw [resolveFrom_zero_of_some (hstart.trans h), resolveFrom_zero_of_some h,
                ih hlength, List.append_assoc]

/-! ### Texts -/

/-- A text without an opening brace stays as it is in front of another one. It
is the statement above for texts. -/
theorem substitute_append_of_notMem (values : Values) {before : String}
    (h : '\x7b' ∉ before.toList) (after : String) :
    substitute values (before ++ after) = before ++ substitute values after := by
  rw [← String.toList_inj, toList_substitute, String.toList_append, String.toList_append,
    toList_substitute, resolveFrom_append_of_notMem h]

/-- None of the delimiters of a route stands in a token, so that routes can be
cut at each of them. -/
theorem delimiter_notMem_token :
    ∀ c ∈ ['.', ':', '/'], ∀ named : Placeholder, c ∉ named.token := by
  intro c hc named
  simp only [List.mem_cons, List.not_mem_nil, or_false] at hc
  rcases hc with rfl | rfl | rfl <;> cases named <;> decide

/-- The separator of a scheme stands in no token, so the scheme and the route
are substituted apart. -/
theorem substitute_withScheme (values : Values) (scheme route : String) :
    substitute values (Uri.withScheme scheme route)
      = Uri.withScheme (substitute values scheme) (substitute values route) := by
  have htoken := delimiter_notMem_token ':' (by simp)
  have hslashes : '\x7b' ∉ ['/', '/'] := by decide
  unfold Uri.withScheme
  rw [← String.toList_inj, toList_substitute]
  simp only [String.toList_append, String.toList_ofList, toList_substitute, Uri.schemeSeparator_eq,
    List.append_assoc, List.cons_append]
  rw [resolveFrom_append_cons htoken (Nat.zero_le _)]
  exact congrArg (_ ++ ':' :: ·) (resolveFrom_append_of_notMem hslashes)

end MultiTarget.Template
