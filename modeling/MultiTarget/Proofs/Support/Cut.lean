import Mathlib.Data.List.Basic
import Mathlib.Data.List.Infix
import Mathlib.Data.List.TakeWhile
import MultiTarget.Text.Cut

/-!
# `MultiTarget.Proofs.Support.Cut`: where a text is cut

A cut takes nothing away but the separator (`eq_append_of_cutFirst?`,
`eq_append_of_cutLast?`), so its parts are the two ends of the text. There is
one as soon as the separator stands anywhere
(`cutFirst?_eq_none_iff_not_isInfix`). For a separator of one character, the
first cut leaves none of it in front and the last one none behind, and this
tells where they are (`cutFirst?_eq_some_iff`, `cutLast?_eq_some_iff`).

What comes before the first separator is also what a text begins with as
long as its characters are others (`takeWhile_append_cons`).

A text that is cut at every separator has the pieces that a list is split
into (`pieces_eq_splitOn`), which the library joins again.
-/

set_option autoImplicit false

namespace MultiTarget.Text

variable {separator cs before after : List Char} {c d : Char}

/-! ### Any separator -/

/-- A cut at the first separator loses nothing but the separator: its two parts
stand around it in the text. Nothing is said here about where the separator is;
for one character `cutFirst?_eq_some_iff` says it. -/
theorem eq_append_of_cutFirst? (h : cutFirst? separator cs = some (before, after)) :
    cs = before ++ separator ++ after := by
  -- Along the text, as the cut goes. The part in front grows on the way back, so it is
  -- generalized.
  induction cs generalizing before with
  | nil =>
      rw [cutFirst?] at h
      split at h
      · rename_i hempty
        cases h
        simpa using hempty
      · cases h
  | cons c rest ih =>
      rw [cutFirst?] at h
      split at h
      · rename_i later hprefix
        cases h
        exact (List.isPrefixOf?_eq_some_iff_append_eq.1 hprefix).symm
      · obtain ⟨⟨earlier, later⟩, hrest, hparts⟩ := Option.map_eq_some_iff.1 h
        cases hparts
        rw [ih hrest]
        rfl

/-- A cut at the last separator loses nothing but the separator, as that at the
first one does. The cut looks behind the first character before it tests it, so
the cases come in the other order than in `eq_append_of_cutFirst?`. -/
theorem eq_append_of_cutLast? (h : cutLast? separator cs = some (before, after)) :
    cs = before ++ separator ++ after := by
  induction cs generalizing before with
  | nil =>
      rw [cutLast?] at h
      split at h
      · rename_i hempty
        cases h
        simpa using hempty
      · cases h
  | cons c rest ih =>
      rw [cutLast?] at h
      split at h
      · rename_i earlier later hrest
        cases h
        rw [ih hrest]
        rfl
      · obtain ⟨later, hprefix, hparts⟩ := Option.map_eq_some_iff.1 h
        cases hparts
        exact (List.isPrefixOf?_eq_some_iff_append_eq.1 hprefix).symm

/-- A text that ends with a separator is cut there, whatever came before, so
the last cut undoes the appending of a marker. Markers are not empty, and the
proof starts from the first character of one. -/
theorem cutLast?_append_self (hseparator : separator ≠ []) (before : List Char) :
    cutLast? separator (before ++ separator) = some (before, []) := by
  induction before with
  | nil =>
      obtain ⟨c, rest, rfl⟩ := List.exists_cons_of_ne_nil hseparator
      -- The separator does not fit into what follows its first character.
      have hrest : cutLast? (c :: rest) rest = none := by
        refine Option.eq_none_iff_forall_ne_some.2 fun parts hparts => ?_
        have hlength := congrArg List.length (eq_append_of_cutLast? hparts)
        simp only [List.length_append, List.length_cons] at hlength
        omega
      rw [List.nil_append, cutLast?, hrest]
      simp [List.isPrefixOf?_eq_some_iff_append_eq]
  | cons c before ih => rw [List.cons_append, cutLast?, ih]

/-- There is no cut exactly if the separator stands nowhere in the text, as a
list inside a list. This form has no parts in it, which is what a condition on
the text alone asks for. -/
theorem cutFirst?_eq_none_iff_not_isInfix :
    cutFirst? separator cs = none ↔ ¬ separator <:+: cs := by
  induction cs with
  | nil => cases separator <;> simp [cutFirst?]
  | cons c rest ih =>
      rw [cutFirst?, List.infix_cons_iff]
      -- An infix of a list begins at its head or stands in its tail, which are the two tests of
      -- the cut.
      cases hprefix : separator.isPrefixOf? (c :: rest) with
      | some after =>
          have hstarts : separator <+: c :: rest :=
            ⟨after, List.isPrefixOf?_eq_some_iff_append_eq.1 hprefix⟩
          simp [hstarts]
      | none =>
          have hstarts : ¬ separator <+: c :: rest := by
            rintro ⟨after, hafter⟩
            rw [List.isPrefixOf?_eq_some_iff_append_eq.2 hafter] at hprefix
            cases hprefix
          simp [hstarts, ih]

/-- The part before the first separator is the beginning of the text. Most uses
of a cut need no more than this, because what does not stand in the text does
not stand in a part of it. -/
theorem isPrefix_of_cutFirst? (h : cutFirst? separator cs = some (before, after)) :
    before <+: cs := by
  rw [eq_append_of_cutFirst? h, List.append_assoc]
  exact List.prefix_append _ _

/-- The part behind the first separator is the end of the text. -/
theorem isSuffix_of_cutFirst? (h : cutFirst? separator cs = some (before, after)) :
    after <:+ cs := by
  rw [eq_append_of_cutFirst? h]
  exact List.suffix_append _ _

/-- The part before the last separator is the beginning of the text. In
particular it is no longer than the text, which bounds a name that is cut
before its marker. -/
theorem isPrefix_of_cutLast? (h : cutLast? separator cs = some (before, after)) :
    before <+: cs := by
  rw [eq_append_of_cutLast? h, List.append_assoc]
  exact List.prefix_append _ _

/-- The part behind the last separator is the end of the text. -/
theorem isSuffix_of_cutLast? (h : cutLast? separator cs = some (before, after)) :
    after <:+ cs := by
  rw [eq_append_of_cutLast? h]
  exact List.suffix_append _ _

/-- A text without the first character of a separator does not begin with it,
whatever follows. It must have a character at all: behind an empty text the
separator may begin. -/
theorem isPrefixOf?_append_eq_none (hbefore : before ≠ []) (hc : c ∉ before) :
    (c :: separator).isPrefixOf? (before ++ cs) = none := by
  obtain ⟨b, rest, rfl⟩ := List.exists_cons_of_ne_nil hbefore
  have hb : c ≠ b := fun heq => hc (heq ▸ List.mem_cons_self)
  simp [List.isPrefixOf?, hb]

/-- A text in which a separator cannot begin is passed over: the cut is that of
what follows, with the text put in front of its first part. It is enough that
the first character of the separator is missing. -/
theorem cutFirst?_append_of_notMem (hc : c ∉ before) :
    cutFirst? (c :: separator) (before ++ cs)
      = (cutFirst? (c :: separator) cs).map fun parts => (before ++ parts.1, parts.2) := by
  induction before with
  | nil => simp
  | cons b before ih =>
      have hbefore : c ∉ before := fun hmem => hc (List.mem_cons_of_mem _ hmem)
      have hprefix : (c :: separator).isPrefixOf? (b :: (before ++ cs)) = none :=
        isPrefixOf?_append_eq_none (List.cons_ne_nil _ _) hc
      rw [List.cons_append, cutFirst?, hprefix, ih hbefore, Option.map_map]
      rfl

/-! ### One character -/

/-- A single character is a prefix of what it begins. The four lemmas about
cuts at one character rewrite with it, so that none of them looks into the test
for a prefix. -/
theorem isPrefixOf?_singleton_cons (c d : Char) (rest : List Char) :
    [c].isPrefixOf? (d :: rest) = if c = d then some rest else none := by
  simp [List.isPrefixOf?]

/-- There is no first cut at a character exactly if the text does not have
it. -/
theorem cutFirst?_eq_none_iff : cutFirst? [c] cs = none ↔ c ∉ cs := by
  induction cs with
  | nil => simp [cutFirst?]
  | cons d rest ih =>
      rw [cutFirst?, isPrefixOf?_singleton_cons]
      by_cases hd : c = d
      · simp [hd]
      · simp [hd, ih]

/-- The first cut is at the only separator that has none before it. Both
directions matter: one reads off where a text was cut, the other one finds the
cut of a text that was put together. -/
theorem cutFirst?_eq_some_iff :
    cutFirst? [c] cs = some (before, after) ↔ cs = before ++ c :: after ∧ c ∉ before := by
  constructor
  · intro h
    refine ⟨by simpa using eq_append_of_cutFirst? h, ?_⟩
    -- The first conjunct holds for any separator. The second one needs the recursion again.
    induction cs generalizing before with
    | nil => cases h
    | cons d rest ih =>
        rw [cutFirst?, isPrefixOf?_singleton_cons] at h
        by_cases hd : c = d
        · rw [if_pos hd] at h
          cases h
          exact List.not_mem_nil
        · rw [if_neg hd] at h
          obtain ⟨⟨earlier, later⟩, hrest, hparts⟩ := Option.map_eq_some_iff.1 h
          cases hparts
          simp [hd, ih hrest]
  · rintro ⟨rfl, hc⟩
    rw [cutFirst?_append_of_notMem hc, cutFirst?, isPrefixOf?_singleton_cons, if_pos rfl]
    simp

/-- There is no last cut at a character exactly if the text does not have it,
as for the first cut. -/
theorem cutLast?_eq_none_iff : cutLast? [c] cs = none ↔ c ∉ cs := by
  induction cs with
  | nil => simp [cutLast?]
  | cons d rest ih =>
      rw [cutLast?, isPrefixOf?_singleton_cons]
      cases hrest : cutLast? [c] rest with
      -- A separator further behind is the one that the cut takes, so the head does not matter.
      | some parts =>
          have hmem : c ∈ rest := by
            by_contra hc
            rw [ih.2 hc] at hrest
            cases hrest
          simp [hmem]
      | none =>
          have hc : c ∉ rest := ih.1 hrest
          by_cases hd : c = d <;> simp [hd, hc]

/-- The last cut is at the only separator that has none behind it. With
`cutFirst?_eq_some_iff` this tells the two cuts apart where the character
occurs more than once. -/
theorem cutLast?_eq_some_iff :
    cutLast? [c] cs = some (before, after) ↔ cs = before ++ c :: after ∧ c ∉ after := by
  constructor
  · intro h
    refine ⟨by simpa using eq_append_of_cutLast? h, ?_⟩
    induction cs generalizing before with
    | nil => cases h
    | cons d rest ih =>
        rw [cutLast?] at h
        split at h
        · rename_i earlier later hrest
          cases h
          exact ih hrest
        · -- Nothing of what follows is a separator.
          rename_i hrest
          rw [isPrefixOf?_singleton_cons] at h
          split at h
          · cases h
            exact cutLast?_eq_none_iff.1 hrest
          · cases h
  · rintro ⟨rfl, hc⟩
    induction before with
    | nil =>
        rw [List.nil_append, cutLast?, cutLast?_eq_none_iff.2 hc, isPrefixOf?_singleton_cons,
          if_pos rfl]
        rfl
    | cons d before ih => rw [List.cons_append, cutLast?, ih]

/-- What comes before a first character is taken as long as there are others.
So the beginning of a text that ends there does not depend on what follows. -/
theorem takeWhile_append_cons (hc : c ∉ before) :
    (before ++ c :: after).takeWhile (· ≠ c) = before := by
  have hothers : ∀ d ∈ before, decide (d ≠ c) = true := fun d hd =>
    decide_eq_true fun heq => hc (heq ▸ hd)
  rw [List.takeWhile_append_of_pos hothers, List.takeWhile_cons_of_neg (by simp),
    List.append_nil]

/-- All of a text is taken if it has no such character, which is the case that
`takeWhile_append_cons` leaves open. -/
theorem takeWhile_of_notMem (hc : c ∉ cs) : cs.takeWhile (· ≠ c) = cs :=
  List.takeWhile_eq_self_iff.2 fun _ hd => decide_eq_true fun heq => hc (heq ▸ hd)

/-- The part of a text up to the first character that fails a test, and the
rest of it. The rest may be empty, so its condition is about a first character
that need not exist. -/
theorem span_eq_iff {p : Char → Bool} : cs.span p = (before, after) ↔
    cs = before ++ after ∧ (∀ d ∈ before, p d = true) ∧ ∀ d ∈ after.head?, p d = false := by
  rw [List.span_eq_takeWhile_dropWhile, Prod.mk.injEq]
  constructor
  · rintro ⟨rfl, rfl⟩
    refine ⟨List.takeWhile_append_dropWhile.symm, fun _ => List.mem_takeWhile_imp, fun d hd => ?_⟩
    have hfirst := List.head?_dropWhile_not p cs
    rw [Option.mem_def.1 hd] at hfirst
    exact hfirst
  · rintro ⟨rfl, hbefore, hafter⟩
    rw [List.takeWhile_append_of_pos hbefore, List.dropWhile_append_of_pos hbefore]
    cases after with
    | nil => simp
    | cons d rest => simp [hafter d rfl]

/-! ### Pieces -/

/-- The pieces of a text are those that the library splits a list into. Its
lemma that the pieces can be joined again then gives the grammar of a
version. -/
theorem pieces_eq_splitOn (c : Char) (cs : List Char) : pieces c cs = cs.splitOn c := by
  induction cs with
  | nil => rfl
  | cons d rest ih =>
      obtain ⟨piece, others, hsplit⟩ := List.exists_cons_of_ne_nil (List.splitOn_ne_nil c rest)
      rw [pieces, ih, List.splitOn_cons_eq_if_modifyHead, hsplit]
      simp

variable {runs : List (List Char)}

/-- A character of a run stands in the text that the runs are joined to. The
other direction, where the character may also come from a separator, is
`mem_of_mem_intercalate`. -/
theorem mem_intercalate {run : List Char} (hrun : run ∈ runs) (hd : d ∈ run) :
    d ∈ [c].intercalate runs := by
  induction runs with
  | nil => cases hrun
  | cons first others ih =>
      cases others with
      | nil =>
          rw [List.intercalate_singleton]
          exact List.mem_singleton.1 hrun ▸ hd
      | cons second others =>
          rw [List.intercalate_cons_cons, List.mem_append]
          rcases List.mem_cons.1 hrun with rfl | hrun
          · exact .inl (List.mem_append_left _ hd)
          · exact .inr (ih hrun)

/-- A character of a joined text is the separator or stands in one of the runs.
So characters that are neither separators nor in any run do not occur. -/
theorem mem_of_mem_intercalate (h : d ∈ [c].intercalate runs) : d = c ∨ ∃ run ∈ runs, d ∈ run := by
  induction runs with
  | nil => cases h
  | cons first others ih =>
      cases others with
      | nil =>
          rw [List.intercalate_singleton] at h
          exact .inr ⟨first, List.mem_cons_self, h⟩
      | cons second others =>
          rw [List.intercalate_cons_cons, List.append_assoc, List.mem_append,
            List.singleton_append, List.mem_cons] at h
          rcases h with hfirst | rfl | hothers
          · exact .inr ⟨first, List.mem_cons_self, hfirst⟩
          · exact .inl rfl
          · exact (ih hothers).imp_right fun ⟨run, hrun, hd⟩ =>
              ⟨run, List.mem_cons_of_mem _ hrun, hd⟩

end MultiTarget.Text
