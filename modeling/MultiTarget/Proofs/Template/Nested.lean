import MultiTarget.Proofs.Template

/-!
# `MultiTarget.Proofs.Template.Nested`: when substituting twice changes more

Values go into a text in one pass, and what they make of the text around
them is not looked at again. In a second pass it is. So a text changes once
more if the first pass has put a token together: braces of the text around
a value that completes the name of a placeholder (`Nested`).

`substitute_substitute_iff` says that this is the only way. Its two halves
are about one pass each:

* `resolveFrom_eq_self_iff`: a text stays as it is exactly if it has no
  token with a value. A value without braces cannot make up for the braces
  of its token.
* `holdsToken_resolveFrom_iff`: where a token with a value comes from in
  the result of a pass. Its braces are no braces of values, and with
  nothing to be replaced between them they would have been replaced
  themselves.

Both go through a text a character or a token at a time (`tokenwise`).
Values that cannot be a part of a token, such as domains and addresses,
never put one together (`substitute_substitute_of_foreign`).
-/

set_option autoImplicit false

namespace MultiTarget

/-! ### Tokens -/

namespace Placeholder

variable {named : Placeholder} {xs ys : List Char} {c : Char}

/-- What stands between the braces of a token: a prefix that all of them share,
and the name. -/
def content (named : Placeholder) : List Char :=
  "xsa-placeholder-".toList ++ named.name.toList

/-- A token is its content in braces. Proofs about braces take it apart in this
way. -/
theorem token_eq (named : Placeholder) :
    named.token = '\x7b' :: (named.content ++ ['\x7d']) := rfl

/-- No brace stands inside a token. So the braces of a token are its first and
its last character, and no others. -/
theorem brace_notMem_content (named : Placeholder) :
    '\x7b' ∉ named.content ∧ '\x7d' ∉ named.content := by
  cases named <;> decide

/-- A token begins with its only opening brace. Two tokens therefore never
overlap. -/
theorem openBrace_notMem_tail (named : Placeholder) : '\x7b' ∉ named.content ++ ['\x7d'] := by
  simp [(brace_notMem_content named).1]

/-- No token is the beginning of another one. So the order in which tokens are
looked for does not matter. -/
theorem token_inj_of_isPrefix {a b : Placeholder} (h : a.token <+: b.token) : a = b := by
  revert h
  cases a <;> cases b <;> decide

/-- The token that a text begins with is found, and nothing else is. -/
theorem atStart?_eq_some_iff : atStart? xs = some named ↔ named.token <+: xs := by
  refine ⟨Template.token_prefix_of_atStart?, fun h => ?_⟩
  have hmem : named ∈ all := by cases named <;> decide
  have hsome : (atStart? xs).isSome = true :=
    List.find?_isSome.2 ⟨named, hmem, List.isPrefixOf_iff_prefix.2 h⟩
  obtain ⟨found, hfound⟩ := Option.isSome_iff_exists.1 hsome
  -- Of two tokens that a text begins with one begins with the other.
  have hsame : found = named := by
    rcases List.prefix_or_prefix_of_prefix (Template.token_prefix_of_atStart? hfound) h
      with hle | hle
    · exact token_inj_of_isPrefix hle
    · exact (token_inj_of_isPrefix hle).symm
  rw [hfound, hsame]

/-- A token that begins before an opening brace ends before it, since it has no
second one. -/
theorem token_prefix_append_openBrace_iff :
    named.token <+: c :: xs ++ '\x7b' :: ys ↔ named.token <+: c :: xs := by
  rw [token_eq, List.cons_append, List.cons_prefix_cons, List.cons_prefix_cons,
    Template.prefix_append_cons_iff (openBrace_notMem_tail named)]

/-- What a text begins with is not changed by what follows from an opening
brace on. There must be a character in front of the brace, or it would be the
start itself. -/
theorem atStart?_append_openBrace : atStart? (c :: xs ++ '\x7b' :: ys) = atStart? (c :: xs) := by
  refine Option.ext fun named => ?_
  rw [atStart?_eq_some_iff, atStart?_eq_some_iff]
  exact token_prefix_append_openBrace_iff

/-- No value has a brace. A value with braces could bring a whole token
along. -/
def Values.Braceless (values : Values) : Prop :=
  ∀ named value, values.get? named = some value →
    '\x7b' ∉ value.toList ∧ '\x7d' ∉ value.toList

/-- No value is a part of what stands between the braces of a token. Domains
with dots and addresses are such values. -/
def Values.Foreign (values : Values) : Prop :=
  ∀ named value, values.get? named = some value →
    ∀ other : Placeholder, ¬ value.toList <:+: other.content

end Placeholder

namespace Template

open Placeholder (Values atStart? atStart?_eq_some_iff token_eq)

variable {values : Values} {c : Char} {named : Placeholder} {xs ys zs : List Char}

/-- Characters of a token are passed over. What is left is a text like any
other. -/
theorem segmentsFrom_eq_drop (skip : Nat) (xs : List Char) :
    segmentsFrom skip xs = segmentsFrom 0 (xs.drop skip) := by
  induction skip generalizing xs with
  | zero => rfl
  | succ skip ih =>
      cases xs with
      | nil => rfl
      | cons x xs => exact ih xs

/-- A token is a placeholder, whatever follows. Nothing behind it can turn it
into another one. -/
theorem segmentsFrom_token_append (named : Placeholder) (xs : List Char) :
    segmentsFrom 0 (named.token ++ xs) = .placeholder named :: segmentsFrom 0 xs := by
  have hstart : atStart? (named.token ++ xs) = some named :=
    atStart?_eq_some_iff.2 (List.prefix_append _ _)
  rw [token_eq, List.cons_append] at hstart ⊢
  rw [segmentsFrom, hstart]
  refine congrArg (_ :: ·) ?_
  rw [segmentsFrom_eq_drop, token_eq, List.length_cons, Nat.add_sub_cancel, List.drop_left]

/-- A token is replaced whatever follows, and what follows is substituted by
itself. Without a value it is replaced by itself. -/
theorem resolveFrom_token_append (values : Values) (named : Placeholder) (xs : List Char) :
    resolveFrom values 0 (named.token ++ xs)
      = (Segment.placeholder named).resolve values ++ resolveFrom values 0 xs := by
  unfold resolveFrom
  rw [segmentsFrom_token_append, List.flatMap_cons]

/-- A text is nothing, or begins with a token, or with a character at which no
token begins. Inductions by this principle take tokens as wholes and need no
count of characters. -/
@[elab_as_elim]
theorem tokenwise {motive : List Char → Prop} (nil : motive [])
    (char : ∀ c rest, atStart? (c :: rest) = none → motive rest → motive (c :: rest))
    (token : ∀ (named : Placeholder) rest, motive rest → motive (named.token ++ rest))
    (xs : List Char) : motive xs := by
  -- A token takes more than one character away, so the induction is on the length.
  induction hlength : xs.length using Nat.strongRecOn generalizing xs with
  | ind n ih =>
      subst hlength
      cases xs with
      | nil => exact nil
      | cons c rest =>
          -- A token is found at the start, or none begins there.
          cases hstart : atStart? (c :: rest) with
          | none => exact char c rest hstart (ih rest.length (Nat.lt_succ_self _) rest rfl)
          | some named =>
              obtain ⟨rest', hrest⟩ := token_prefix_of_atStart? hstart
              rw [← hrest]
              refine token named rest' (ih rest'.length ?_ rest' rfl)
              rw [← hrest, List.length_append, token_eq, List.length_cons]
              omega

/-! ### One pass -/

/-- A placeholder with a value makes way for it. -/
theorem resolve_of_some {value : String} (h : values.get? named = some value) :
    (Segment.placeholder named).resolve values = value.toList := by
  simp only [Segment.resolve, h]

/-- A placeholder without a value keeps its token. -/
theorem resolve_of_none (h : values.get? named = none) :
    (Segment.placeholder named).resolve values = named.token := by
  simp only [Segment.resolve, h]

/-- A text can be cut before an opening brace, as no token reaches over it. -/
theorem resolveFrom_append_openBrace (values : Values) (xs ys : List Char) :
    resolveFrom values 0 (xs ++ '\x7b' :: ys)
      = resolveFrom values 0 xs ++ resolveFrom values 0 ('\x7b' :: ys) := by
  induction xs using tokenwise with
  | nil => rfl
  | char c rest hstart ih =>
      have hstart' : atStart? (c :: (rest ++ '\x7b' :: ys)) = none :=
        Placeholder.atStart?_append_openBrace.trans hstart
      rw [List.cons_append, resolveFrom_zero_of_none hstart', resolveFrom_zero_of_none hstart,
        ih, List.cons_append]
  | token named rest ih =>
      rw [List.append_assoc, resolveFrom_token_append, resolveFrom_token_append, ih,
        List.append_assoc]

/-- A text can be cut anywhere behind a part that has lost all opening braces.
A token that began in the part would have needed one of these. -/
theorem resolveFrom_append_of_notMem_resolveFrom (h : '\x7b' ∉ resolveFrom values 0 xs)
    (ys : List Char) :
    resolveFrom values 0 (xs ++ ys) = resolveFrom values 0 xs ++ resolveFrom values 0 ys := by
  induction xs using tokenwise with
  | nil => rfl
  | char c rest hstart ih =>
      rw [resolveFrom_zero_of_none hstart] at h ⊢
      obtain ⟨hc, hrest⟩ := not_or.1 (mt List.mem_cons.2 h)
      rw [List.cons_append, resolveFrom_zero_of_none (atStart?_eq_none (Ne.symm hc)), ih hrest,
        List.cons_append]
  | token named rest ih =>
      rw [resolveFrom_token_append] at h ⊢
      obtain ⟨-, hrest⟩ := not_or.1 (mt List.mem_append.2 h)
      rw [List.append_assoc, resolveFrom_token_append, ih hrest, List.append_assoc]

/-- A text without an opening brace stays as it is, whatever the values are. -/
theorem resolveFrom_of_notMem (values : Values) (h : '\x7b' ∉ xs) :
    resolveFrom values 0 xs = xs := by
  have happend : resolveFrom values 0 (xs ++ []) = xs ++ resolveFrom values 0 [] :=
    resolveFrom_append_of_notMem h
  rwa [List.append_nil, show resolveFrom values 0 [] = [] from rfl, List.append_nil] at happend

/-! ### Tokens with values -/

/-- A token with a value stands in a text. A pass would replace it. -/
def HoldsToken (values : Values) (xs : List Char) : Prop :=
  ∃ named value, values.get? named = some value ∧ named.token <:+: xs

/-- A character at which no token begins does not matter, since every token in
the text begins behind it. -/
theorem holdsToken_cons_iff (h : atStart? (c :: xs) = none) :
    HoldsToken values (c :: xs) ↔ HoldsToken values xs := by
  refine exists_congr fun named => exists_congr fun value => and_congr_right fun _ => ?_
  rw [List.infix_cons_iff]
  refine or_iff_right fun hprefix => ?_
  rw [atStart?_eq_some_iff.2 hprefix] at h
  cases h

/-- Text without an opening brace in front does not matter, since no token
begins in it. -/
theorem holdsToken_append_iff_of_notMem (h : '\x7b' ∉ xs) :
    HoldsToken values (xs ++ ys) ↔ HoldsToken values ys := by
  induction xs with
  | nil => rfl
  | cons x xs ih =>
      obtain ⟨hx, hxs⟩ := not_or.1 (mt List.mem_cons.2 h)
      rw [List.cons_append, holdsToken_cons_iff (atStart?_eq_none (Ne.symm hx)), ih hxs]

/-- A token in front matters if it has a value. Without one it is text like any
other. -/
theorem holdsToken_token_append_iff :
    HoldsToken values (named.token ++ xs) ↔
      (values.get? named).isSome = true ∨ HoldsToken values xs := by
  constructor
  · rintro ⟨other, value, hvalue, hinfix⟩
    rw [token_eq named, List.cons_append, List.infix_cons_iff] at hinfix
    rcases hinfix with hprefix | hinfix
    · -- The token in front is the one that a text with it in front begins with.
      have hother : atStart? (named.token ++ xs) = some other := atStart?_eq_some_iff.2 hprefix
      have hnamed : atStart? (named.token ++ xs) = some named :=
        atStart?_eq_some_iff.2 (List.prefix_append _ _)
      obtain rfl : other = named := Option.some.inj (hother.symm.trans hnamed)
      exact .inl (Option.isSome_iff_exists.2 ⟨value, hvalue⟩)
    · exact .inr ((holdsToken_append_iff_of_notMem
        (Placeholder.openBrace_notMem_tail named)).1 ⟨other, value, hvalue, hinfix⟩)
  · rintro (hsome | ⟨other, value, hvalue, hinfix⟩)
    · obtain ⟨value, hvalue⟩ := Option.isSome_iff_exists.1 hsome
      exact ⟨named, value, hvalue, (List.prefix_append _ _).isInfix⟩
    · exact ⟨other, value, hvalue, hinfix.trans (List.suffix_append _ _).isInfix⟩

/-- A pass puts no opening braces into a text, as no value has one. Braces are
counted, which is enough to tell that a token is gone. -/
theorem count_resolveFrom_le (hvalues : values.Braceless) (xs : List Char) :
    (resolveFrom values 0 xs).count '\x7b' ≤ xs.count '\x7b' := by
  -- Token by token: each one has a brace, and its value has none.
  induction xs using tokenwise with
  | nil => exact Nat.le_refl _
  | char c rest hstart ih =>
      rw [resolveFrom_zero_of_none hstart, List.count_cons, List.count_cons]
      omega
  | token named rest ih =>
      rw [resolveFrom_token_append, List.count_append, List.count_append]
      cases hget : values.get? named with
      | none =>
          rw [resolve_of_none hget]
          omega
      | some value =>
          have hzero : value.toList.count '\x7b' = 0 :=
            List.count_eq_zero.2 (hvalues named value hget).1
          rw [resolve_of_some hget]
          omega

/-- **What a pass leaves alone.** A text stays as it is exactly if no token
with a value stands in it. -/
theorem resolveFrom_eq_self_iff (hvalues : values.Braceless) :
    resolveFrom values 0 xs = xs ↔ ¬ HoldsToken values xs := by
  induction xs using tokenwise with
  | nil =>
      refine iff_of_true rfl ?_
      rintro ⟨named, value, -, hinfix⟩
      cases named <;> cases List.infix_nil.1 hinfix
  | char c rest hstart ih =>
      rw [resolveFrom_zero_of_none hstart, holdsToken_cons_iff hstart, ← ih,
        List.cons.injEq, and_iff_right rfl]
  | token named rest ih =>
      rw [resolveFrom_token_append, holdsToken_token_append_iff]
      cases hget : values.get? named with
      | none =>
          rw [resolve_of_none hget, List.append_cancel_left_eq, ih]
          simp
      | some value =>
          refine iff_of_false (fun hsame => ?_) (by simp)
          -- The opening brace of the token is lost, and nothing makes up for it.
          have hcount := congrArg (List.count '\x7b') hsame
          have hzero : value.toList.count '\x7b' = 0 :=
            List.count_eq_zero.2 (hvalues named value hget).1
          have hle := count_resolveFrom_le hvalues rest
          rw [resolve_of_some hget, List.count_append, List.count_append, token_eq,
            List.count_cons_self] at hcount
          omega

/-! ### Where a token comes from -/

/-- Text in braces has itself something to be replaced, and is a token with a
value afterwards. It is stated for characters; for texts see below. -/
def NestedIn (values : Values) (xs : List Char) : Prop :=
  ∃ before inside after named value,
    xs = before ++ '\x7b' :: (inside ++ '\x7d' :: after) ∧ '\x7b' ∈ inside ∧
      resolveFrom values 0 inside = Placeholder.content named ∧ values.get? named = some value

theorem NestedIn.append (h : NestedIn values ys) (xs : List Char) :
    NestedIn values (xs ++ ys) := by
  obtain ⟨before, inside, after, named, value, rfl, hmem, hcontent, hvalue⟩ := h
  exact ⟨xs ++ before, inside, after, named, value, List.append_assoc .. |>.symm, hmem,
    hcontent, hvalue⟩

/-- A closing brace that is the first brace of a result stands in the text
already. It is no brace of a value, and no token in front of it has been
kept. -/
theorem exists_inside_of_resolveFrom_eq (hvalues : values.Braceless)
    (hopen : '\x7b' ∉ ys) (hclose : '\x7d' ∉ ys)
    (h : resolveFrom values 0 xs = ys ++ '\x7d' :: zs) :
    ∃ inside after, xs = inside ++ '\x7d' :: after ∧ resolveFrom values 0 inside = ys := by
  induction xs using tokenwise generalizing ys with
  | nil => cases ys <;> cases h
  | char c rest hstart ih =>
      rw [resolveFrom_zero_of_none hstart] at h
      cases ys with
      | nil =>
          obtain ⟨rfl, -⟩ := List.cons.inj h
          exact ⟨[], rest, rfl, rfl⟩
      | cons y ys =>
          obtain ⟨rfl, hrest⟩ := List.cons.inj h
          obtain ⟨hc, hopen⟩ := not_or.1 (mt List.mem_cons.2 hopen)
          obtain ⟨inside, after, rfl, hinside⟩ :=
            ih hopen (fun hmem => hclose (List.mem_cons_of_mem _ hmem)) hrest
          refine ⟨c :: inside, after, rfl, ?_⟩
          rw [resolveFrom_zero_of_none (atStart?_eq_none (Ne.symm hc)), hinside]
  | token named rest ih =>
      rw [resolveFrom_token_append] at h
      cases hget : values.get? named with
      | none =>
          -- The token stays, and its opening brace comes before any closing one.
          rw [resolve_of_none hget, token_eq, List.cons_append] at h
          cases ys with
          | nil => cases (List.cons.inj h).1
          | cons y ys =>
              obtain ⟨rfl, -⟩ := List.cons.inj h
              exact absurd List.mem_cons_self hopen
      | some value =>
          rw [resolve_of_some hget] at h
          -- The value has no closing brace, so it lies in front of the first one.
          have hlonger : ∃ ys', ys = value.toList ++ ys' ∧
              resolveFrom values 0 rest = ys' ++ '\x7d' :: zs := by
            rcases List.append_eq_append_iff.1 h with ⟨ys', rfl, hrest⟩ | ⟨ys', hvalue, hrest⟩
            · exact ⟨ys', rfl, hrest⟩
            · cases ys' with
              | nil => exact ⟨[], by simpa using hvalue.symm, hrest.symm⟩
              | cons y ys' =>
                  obtain ⟨rfl, -⟩ := List.cons.inj hrest
                  exact absurd (hvalue ▸ by simp) (hvalues named value hget).2
          obtain ⟨ys', rfl, hrest⟩ := hlonger
          obtain ⟨inside, after, rfl, hinside⟩ :=
            ih (fun hmem => hopen (List.mem_append_right _ hmem))
              (fun hmem => hclose (List.mem_append_right _ hmem)) hrest
          refine ⟨named.token ++ inside, after, List.append_assoc .. |>.symm, ?_⟩
          rw [resolveFrom_token_append, resolve_of_some hget, hinside]

/-- No token begins at a brace if the text behind it has an opening brace that
a pass takes away together with all other braces. A token would have closed
before that brace. -/
theorem atStart?_openBrace_eq_none (hmem : '\x7b' ∈ xs)
    (hclose : '\x7d' ∉ resolveFrom values 0 xs) (ys : List Char) :
    atStart? ('\x7b' :: (xs ++ ys)) = none := by
  obtain ⟨front, back, rfl, hfront⟩ := List.eq_append_cons_of_mem hmem
  -- Up to the first opening brace the text stays, so no closing brace stands there.
  rw [resolveFrom_append_of_notMem hfront] at hclose
  have hcloseFront : '\x7d' ∉ front := fun h => hclose (List.mem_append_left _ h)
  rw [List.append_assoc, List.cons_append, ← List.cons_append,
    Placeholder.atStart?_append_openBrace]
  refine Option.eq_none_iff_forall_ne_some.2 fun named hstart => hcloseFront ?_
  have hprefix := atStart?_eq_some_iff.1 hstart
  rw [token_eq, List.cons_prefix_cons] at hprefix
  exact hprefix.2.subset (by simp)

/-- **Where a token with a value comes from.** After a pass a token with a
value stands in the text exactly if one was nested there. A token of the text
itself cannot be among those left, for it would have been replaced. -/
theorem holdsToken_resolveFrom_iff (hvalues : values.Braceless) :
    HoldsToken values (resolveFrom values 0 xs) ↔ NestedIn values xs := by
  constructor
  · intro h
    -- A token of the result begins at a character that stayed, or behind it.
    induction xs using tokenwise with
    | nil =>
        obtain ⟨named, value, -, hinfix⟩ := h
        cases named <;> cases List.infix_nil.1 hinfix
    | char c rest hstart ih =>
        rw [resolveFrom_zero_of_none hstart] at h
        obtain ⟨named, value, hvalue, hinfix⟩ := h
        rcases List.infix_cons_iff.1 hinfix with hprefix | hinfix
        · -- The brace was there before, and so was the one that closes it.
          obtain ⟨zs, hzs⟩ := hprefix
          rw [token_eq, List.cons_append, List.append_assoc] at hzs
          obtain ⟨rfl, hrest⟩ := List.cons.inj hzs
          obtain ⟨hopen, hclose⟩ := Placeholder.brace_notMem_content named
          obtain ⟨inside, after, rfl, hinside⟩ :=
            exists_inside_of_resolveFrom_eq hvalues hopen hclose hrest.symm
          refine ⟨[], inside, after, named, value, rfl, ?_, hinside, hvalue⟩
          -- With nothing to be replaced in between they would be a token of the text.
          by_contra hnone
          rw [resolveFrom_of_notMem values hnone] at hinside
          have htoken : atStart? ('\x7b' :: (inside ++ '\x7d' :: after)) = some named := by
            rw [atStart?_eq_some_iff, hinside]
            exact ⟨after, by simp [token_eq]⟩
          rw [htoken] at hstart
          cases hstart
        · exact (ih ⟨named, value, hvalue, hinfix⟩).append [c]
    | token named rest ih =>
        rw [resolveFrom_token_append] at h
        refine (ih ?_).append _
        cases hget : values.get? named with
        | none =>
            rw [resolve_of_none hget, holdsToken_token_append_iff, hget] at h
            simpa using h
        | some value =>
            rw [resolve_of_some hget,
              holdsToken_append_iff_of_notMem (hvalues named value hget).1] at h
            exact h
  · rintro ⟨before, inside, after, named, value, rfl, hmem, hcontent, hvalue⟩
    obtain ⟨hopen, hclose⟩ := Placeholder.brace_notMem_content named
    rw [← hcontent] at hopen hclose
    rw [resolveFrom_append_openBrace,
      resolveFrom_zero_of_none (atStart?_openBrace_eq_none hmem hclose _),
      resolveFrom_append_of_notMem_resolveFrom hopen,
      resolveFrom_zero_of_none (atStart?_eq_none (by decide)), hcontent]
    exact ⟨named, value, hvalue, resolveFrom values 0 before, resolveFrom values 0 after,
      by simp [token_eq]⟩

/-- After a pass a second one changes something exactly if a token was nested
in the text. Both halves are used, the first of them for the result of the
pass. -/
theorem resolveFrom_resolveFrom_iff (hvalues : values.Braceless) :
    resolveFrom values 0 (resolveFrom values 0 xs) = resolveFrom values 0 xs ↔
      ¬ NestedIn values xs := by
  rw [resolveFrom_eq_self_iff hvalues, holdsToken_resolveFrom_iff hvalues]

/-- Where all opening braces are lost, one of them was that of a token whose
value is there now. So a nested token needs a value as a part of its
content. -/
theorem exists_value_infix_of_mem (hmem : '\x7b' ∈ xs) (hlost : '\x7b' ∉ resolveFrom values 0 xs) :
    ∃ named value, values.get? named = some value ∧
      value.toList <:+: resolveFrom values 0 xs := by
  -- The first token with a value will do; before it only characters are passed that are no braces.
  induction xs using tokenwise with
  | nil => cases hmem
  | char c rest hstart ih =>
      rw [resolveFrom_zero_of_none hstart] at hlost ⊢
      obtain ⟨hc, hlost⟩ := not_or.1 (mt List.mem_cons.2 hlost)
      obtain ⟨named, value, hvalue, hinfix⟩ :=
        ih ((List.mem_cons.1 hmem).resolve_left hc) hlost
      exact ⟨named, value, hvalue, hinfix.trans (List.suffix_cons _ _).isInfix⟩
  | token named rest ih =>
      rw [resolveFrom_token_append] at hlost ⊢
      cases hget : values.get? named with
      | none =>
          rw [resolve_of_none hget, token_eq] at hlost
          exact absurd List.mem_cons_self hlost
      | some value =>
          rw [resolve_of_some hget]
          exact ⟨named, value, hget, (List.prefix_append _ _).isInfix⟩

/-! ### Texts -/

/-- A text has braces around something that is replaced, and with values in
place they are the token of a placeholder that has a value itself. -/
def Nested (values : Values) (text : String) : Prop :=
  ∃ before inside after named value,
    text = before ++ "\x7b" ++ inside ++ "\x7d" ++ after ∧ '\x7b' ∈ inside.toList ∧
      "\x7b" ++ substitute values inside ++ "\x7d"
        = String.ofList (Placeholder.token named) ∧
      values.get? named = some value

/-- A text is nested if its characters are. The result is about texts, and the
induction about characters. -/
theorem nested_iff {text : String} : Nested values text ↔ NestedIn values text.toList := by
  constructor
  · rintro ⟨before, inside, after, named, value, rfl, hmem, htoken, hvalue⟩
    refine ⟨before.toList, inside.toList, after.toList, named, value, by simp, hmem, ?_, hvalue⟩
    have hchars := congrArg String.toList htoken
    simpa [token_eq, toList_substitute] using hchars
  · rintro ⟨before, inside, after, named, value, htext, hmem, hcontent, hvalue⟩
    refine ⟨String.ofList before, String.ofList inside, String.ofList after, named, value,
      String.toList_inj.1 (by simp [htext]), by simpa using hmem, ?_, hvalue⟩
    rw [← String.toList_inj]
    simp [token_eq, toList_substitute, hcontent]

/-- Values that are no part of a token are substituted once and for all. This
covers the targets that are met in practice. -/
theorem substitute_substitute_of_foreign (hvalues : values.Braceless)
    (hforeign : values.Foreign) (text : String) :
    substitute values (substitute values text) = substitute values text := by
  rw [← String.toList_inj, toList_substitute, toList_substitute,
    resolveFrom_resolveFrom_iff hvalues]
  rintro ⟨before, inside, after, named, value, -, hmem, hcontent, -⟩
  have hlost : '\x7b' ∉ resolveFrom values 0 inside :=
    hcontent ▸ (Placeholder.brace_notMem_content named).1
  obtain ⟨inner, part, hpart, hinfix⟩ := exists_value_infix_of_mem hmem hlost
  exact hforeign inner part hpart named (hcontent ▸ hinfix)

/-- What is known of a target is its default domain alone. Every other
placeholder keeps its token. -/
def knownDomain (domain : String) : Values where
  defaultDomain := some domain
  defaultIdleDomain := none
  protocol := none
  authorizationEndpoint := none
  deployServiceUrl := none
  controllerEndpoint := none
  routerPort := none

/-- A domain with a dot is no part of a token. -/
example (text : String) :
    let values := knownDomain "apps.example.com"
    substitute values (substitute values text) = substitute values text := by
  refine substitute_substitute_of_foreign ?_ ?_ text
  · intro named value hvalue
    cases named <;> cases hvalue <;> decide
  · intro named value hvalue other hinfix
    have hdot : '.' ∈ value.toList := by
      cases named <;> cases hvalue <;> decide
    have hnone : '.' ∉ other.content := by cases other <;> decide
    exact hnone (List.IsInfix.subset hinfix hdot)

/-- **When a second pass changes something.** Let no value have a brace.
Substituting in a text that is substituted already changes nothing exactly if
no token is nested in the text.

The values are the same in both passes. With braces in values a token need not
be nested to come about. -/
theorem substitute_substitute_iff (values : Values) (hvalues : values.Braceless)
    (text : String) :
    substitute values (substitute values text) = substitute values text ↔
      ¬ Nested values text := by
  rw [nested_iff, ← resolveFrom_resolveFrom_iff hvalues, ← String.toList_inj,
    toList_substitute, toList_substitute]

/-- The token of the default domain inside braces is replaced by a domain that
completes the same token once more. The domain is the word that a token has at
its end. -/
theorem substitute_substitute_knownDomain :
    let values := knownDomain "default"
    let text := "\x7bxsa-placeholder-domain-\x7bxsa-placeholder-domain-default\x7d\x7d"
    values.Braceless ∧ Nested values text ∧
      substitute values text = "\x7bxsa-placeholder-domain-default\x7d" ∧
      substitute values (substitute values text) ≠ substitute values text := by
  intro values text
  have hvalues : values.Braceless := by
    intro named value hvalue
    cases named <;> cases hvalue <;> decide
  have hnested : Nested values text :=
    ⟨"", "xsa-placeholder-domain-\x7bxsa-placeholder-domain-default\x7d", "", .defaultDomain,
      "default", rfl, by decide +kernel, by decide +kernel, rfl⟩
  exact ⟨hvalues, hnested, by decide +kernel, fun hsame =>
    (substitute_substitute_iff values hvalues text).1 hsame hnested⟩

end Template

end MultiTarget
