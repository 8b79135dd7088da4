import MultiTarget.Proofs.Support.Cut
import MultiTarget.Proofs.Template.Nested

/-!
# `MultiTarget.Proofs.Template.Separators`: cutting before and after

A text may be cut at a separator before values are put in place of its
placeholders, or after. It makes no difference as long as the values put
into it neither have separators nor are empty (`Inert`): no token has one,
so a pass moves none, adds none and takes none away
(`notMem_resolveFrom`), and it brings no characters together that stood
apart (`isPrefixOf?_resolveFrom`).

So a pass goes through each way of cutting a text: at the first separator
(`cutFirst?_resolveFrom`), which may have several characters, at the last
one (`cutLast?_resolveFrom`), and before the first one
(`takeWhile_resolveFrom`).
-/

set_option autoImplicit false

namespace MultiTarget.Template

open Placeholder (Values atStart?)

variable {values : Values} {separators separator xs ys : List Char} {c : Char}

/-- The values that a pass puts into a text are not empty and have none of some
separators, which stand in no token either. Only values whose tokens are in the
text are asked about. -/
structure Inert (values : Values) (separators xs : List Char) : Prop where
  token : ∀ c ∈ separators, ∀ named : Placeholder, c ∉ named.token
  value : ∀ named value, values.get? named = some value → named.token <:+: xs →
    value.toList ≠ [] ∧ ∀ c ∈ separators, c ∉ value.toList

namespace Inert

/-- A part of a text has no other values put in, so that what is known of a
whole text is known of its parts. -/
theorem of_isInfix (h : Inert values separators xs) (hpart : ys <:+: xs) :
    Inert values separators ys :=
  ⟨h.token, fun named value hget htoken => h.value named value hget (htoken.trans hpart)⟩

/-- What stands for a token is not empty, with a value or without. -/
theorem resolve_ne_nil {named : Placeholder} (h : Inert values separators (named.token ++ xs)) :
    (Segment.placeholder named).resolve values ≠ [] := by
  cases hget : values.get? named with
  | none =>
      rw [resolve_of_none hget]
      exact List.cons_ne_nil _ _
  | some value =>
      rw [resolve_of_some hget]
      exact (h.value named value hget (List.prefix_append _ _).isInfix).1

/-- What stands for a token has no separator, with a value or without. -/
theorem notMem_resolve {named : Placeholder} (h : Inert values separators (named.token ++ xs))
    (hc : c ∈ separators) : c ∉ (Segment.placeholder named).resolve values := by
  cases hget : values.get? named with
  | none =>
      rw [resolve_of_none hget]
      exact h.token c hc named
  | some value =>
      rw [resolve_of_some hget]
      exact (h.value named value hget (List.prefix_append _ _).isInfix).2 c hc

/-- A pass adds no separators. So a part in front of the first one is still in
front of it. -/
theorem notMem_resolveFrom (h : Inert values separators xs) (hc : c ∈ separators)
    (hnone : c ∉ xs) : c ∉ resolveFrom values 0 xs := by
  -- Token by token: neither a token nor its value has the separator.
  induction xs using tokenwise with
  | nil => exact hnone
  | char d rest hstart ih =>
      rw [resolveFrom_zero_of_none hstart]
      obtain ⟨hd, hrest⟩ := not_or.1 (mt List.mem_cons.2 hnone)
      exact mt List.mem_cons.1
        (not_or.2 ⟨hd, ih (h.of_isInfix (List.suffix_cons _ _).isInfix) hrest⟩)
  | token named rest ih =>
      rw [resolveFrom_token_append]
      have hrest : c ∉ rest := fun hmem => hnone (List.mem_append_right _ hmem)
      exact List.not_mem_append (h.notMem_resolve hc)
        (ih (h.of_isInfix (List.suffix_append _ _).isInfix) hrest)

/-- Nothing becomes nothing, and nothing else does. A part that must not be
empty is not empty afterwards. -/
theorem resolveFrom_eq_nil_iff (h : Inert values separators xs) :
    resolveFrom values 0 xs = [] ↔ xs = [] := by
  induction xs using tokenwise with
  | nil => exact Iff.rfl
  | char d rest hstart _ =>
      rw [resolveFrom_zero_of_none hstart]
      simp
  | token named rest _ =>
      rw [resolveFrom_token_append, List.append_eq_nil_iff, List.append_eq_nil_iff]
      refine iff_of_false (fun hnil => h.resolve_ne_nil hnil.1) fun hnil => ?_
      exact absurd hnil.1 (List.cons_ne_nil _ _)

/-- What is not empty does not become so. It is the form in which a case split
asks for it. -/
theorem exists_resolveFrom_cons (h : Inert values separators (c :: xs)) :
    ∃ d ys, resolveFrom values 0 (c :: xs) = d :: ys :=
  List.exists_cons_of_ne_nil (mt h.resolveFrom_eq_nil_iff.1 (List.cons_ne_nil _ _))

/-- What begins with a separator begins with it afterwards, and nothing else
does. It may have several characters, and no value is put in between them. -/
theorem isPrefixOf?_resolveFrom (h : Inert values separators xs)
    (hseparator : separator ⊆ separators) :
    separator.isPrefixOf? (resolveFrom values 0 xs)
      = (separator.isPrefixOf? xs).map (resolveFrom values 0) := by
  -- On the separator, and for each of its characters by what the text begins with.
  induction separator generalizing xs with
  | nil => rfl
  | cons s separator ih =>
      obtain ⟨hs, hrest⟩ := List.cons_subset.1 hseparator
      induction xs using tokenwise with
      | nil => rfl
      | char c rest hstart _ =>
          rw [resolveFrom_zero_of_none hstart, List.isPrefixOf?, List.isPrefixOf?,
            ih (h.of_isInfix (List.suffix_cons _ _).isInfix) hrest]
          split <;> rfl
      | token named rest _ =>
          -- Neither a token nor what stands for it begins with a separator.
          have htoken : named.token ≠ [] := List.cons_ne_nil _ _
          rw [resolveFrom_token_append,
            Text.isPrefixOf?_append_eq_none h.resolve_ne_nil (h.notMem_resolve hs),
            Text.isPrefixOf?_append_eq_none htoken (h.token s hs named)]
          rfl

/-- The first cut before a pass is the first one after it, and its parts are
those before with values in them. -/
theorem cutFirst?_resolveFrom (h : Inert values separators xs) {s : Char}
    (hseparator : s :: separator ⊆ separators) :
    Text.cutFirst? (s :: separator) (resolveFrom values 0 xs)
      = (Text.cutFirst? (s :: separator) xs).map fun parts =>
          (resolveFrom values 0 parts.1, resolveFrom values 0 parts.2) := by
  have hs : s ∈ separators := hseparator List.mem_cons_self
  -- Before the first cut every token is passed as a whole, as no separator is in it.
  induction xs using tokenwise with
  | nil => rfl
  | char c rest hstart ih =>
      have hprefix := h.isPrefixOf?_resolveFrom hseparator
      have hrest := ih (h.of_isInfix (List.suffix_cons _ _).isInfix)
      rw [resolveFrom_zero_of_none hstart] at hprefix ⊢
      rw [Text.cutFirst?, Text.cutFirst?, hprefix]
      cases hfound : (s :: separator).isPrefixOf? (c :: rest) with
      | some after => rfl
      | none =>
          cases hcut : Text.cutFirst? (s :: separator) rest with
          | none =>
              rw [hcut] at hrest
              simp [hrest]
          | some parts =>
              -- No token begins at the character in what is cut off either.
              have hstart' : atStart? (c :: parts.1) = none := by
                rw [Text.eq_append_of_cutFirst? hcut, List.append_assoc, List.cons_append,
                  ← List.cons_append, atStart?_append_cons (h.token s hs)] at hstart
                exact hstart
              rw [hcut] at hrest
              simp [hrest, resolveFrom_zero_of_none hstart']
  | token named rest ih =>
      have hrest := ih (h.of_isInfix (List.suffix_append _ _).isInfix)
      rw [resolveFrom_token_append, Text.cutFirst?_append_of_notMem (h.notMem_resolve hs),
        Text.cutFirst?_append_of_notMem (h.token s hs named), hrest, Option.map_map,
        Option.map_map]
      refine congrArg (Option.map · _) (funext fun parts => ?_)
      simp [resolveFrom_token_append]

/-- The last cut before a pass is the last one after it. Here a separator is
one character. -/
theorem cutLast?_resolveFrom (h : Inert values separators xs) (hc : c ∈ separators) :
    Text.cutLast? [c] (resolveFrom values 0 xs)
      = (Text.cutLast? [c] xs).map fun parts =>
          (resolveFrom values 0 parts.1, resolveFrom values 0 parts.2) := by
  cases hcut : Text.cutLast? [c] xs with
  | none =>
      have hnone : c ∉ xs := Text.cutLast?_eq_none_iff.1 hcut
      exact Text.cutLast?_eq_none_iff.2 (h.notMem_resolveFrom hc hnone)
  | some parts =>
      obtain ⟨rfl, hafter⟩ := Text.cutLast?_eq_some_iff.1 hcut
      have hinert : Inert values separators parts.2 :=
        h.of_isInfix ((List.suffix_cons _ _).trans (List.suffix_append _ _)).isInfix
      exact Text.cutLast?_eq_some_iff.2 ⟨resolveFrom_append_cons (h.token c hc) (Nat.zero_le _),
        hinert.notMem_resolveFrom hc hafter⟩

/-- What comes before the first separator is substituted by itself, and all of
the text if there is none. -/
theorem takeWhile_resolveFrom (h : Inert values separators xs) (hc : c ∈ separators) :
    (resolveFrom values 0 xs).takeWhile (· ≠ c)
      = resolveFrom values 0 (xs.takeWhile (· ≠ c)) := by
  by_cases hmem : c ∈ xs
  · obtain ⟨before, after, rfl, hbefore⟩ := List.eq_append_cons_of_mem hmem
    have hinert : Inert values separators before := h.of_isInfix (List.prefix_append _ _).isInfix
    rw [resolveFrom_append_cons (h.token c hc) (Nat.zero_le _), Text.takeWhile_append_cons hbefore,
      Text.takeWhile_append_cons (hinert.notMem_resolveFrom hc hbefore)]
  · rw [Text.takeWhile_of_notMem hmem, Text.takeWhile_of_notMem (h.notMem_resolveFrom hc hmem)]

end Inert

end MultiTarget.Template
