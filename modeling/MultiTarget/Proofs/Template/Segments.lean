import MultiTarget.Proofs.Support.Cut
import MultiTarget.Proofs.Template.Nested

/-!
# `MultiTarget.Proofs.Template.Segments`: the one way to cut a text

A text is cut into literals and placeholders, and written one after the
other they are the text again. There are many such cuts, since any token may
as well be taken for literal text, and any literal be cut once more. The
segments of a text are the one that is `Reduced`: no literal is empty or has
a token in it, and no two stand side by side (`segmentsFrom_eq_iff`).

So every token is a placeholder, whatever braces stand around it. A text
falls apart at each one (`segmentsFrom_append_token`), and that says what a
substitution does: it replaces the token by its value, and does the same with
the text on both sides.

Segments are found a character at a time. They can also be found from brace
to brace (`scan`), with the literal so far held back until a placeholder or
the end is reached. No token is missed by that: between two braces there is
none, and a token has no brace inside, so what stands between an opening
brace and the next one of either kind decides (`atStart?_openBrace`).
-/

set_option autoImplicit false

namespace MultiTarget

namespace Template

open Placeholder (Values atStart? atStart?_eq_some_iff token_eq)

variable {values : Values} {c : Char} {named : Placeholder} {xs ys : List Char}
  {segments : List Segment}

/-! ### Segments as text -/

/-- A segment as it stands in a text. A placeholder stands there as its token,
with a value or without. -/
def Segment.written : Segment → List Char
  | .literal text => text
  | .placeholder named => named.token

/-- The text that is cut into segments: these are written one after the
other. -/
def textOf (segments : List Segment) : List Char := segments.flatMap Segment.written

theorem textOf_push (c : Char) (segments : List Segment) :
    textOf (Segment.push c segments) = c :: textOf segments :=
  flatMap_push (fun _ => rfl) c segments

/-- Nothing is lost: written one after the other, the segments of a text are
the text. -/
theorem textOf_segmentsFrom (xs : List Char) : textOf (segmentsFrom 0 xs) = xs := by
  -- Token by token, as for everything that is said of one pass.
  induction xs using tokenwise with
  | nil => rfl
  | char c rest hstart ih => rw [segmentsFrom_zero_of_none hstart, textOf_push, ih]
  | token named rest ih =>
      rw [segmentsFrom_token_append]
      exact congrArg (named.token ++ ·) ih

/-! ### Cuts at a token -/

/-- Behind a placeholder nothing changes when a character is put in front, even
if it starts a literal of its own. -/
theorem push_append_placeholder (c : Char) (segments later : List Segment) :
    Segment.push c (segments ++ .placeholder named :: later)
      = Segment.push c segments ++ .placeholder named :: later := by
  cases segments with
  | nil => rfl
  | cons segment rest => cases segment <;> rfl

/-- Every token is a placeholder, and the text around it is cut by itself. It
may stand anywhere, also between other braces. -/
theorem segmentsFrom_append_token (xs : List Char) (named : Placeholder) (ys : List Char) :
    segmentsFrom 0 (xs ++ named.token ++ ys)
      = segmentsFrom 0 xs ++ .placeholder named :: segmentsFrom 0 ys := by
  induction xs using tokenwise with
  | nil => exact segmentsFrom_token_append named ys
  | char c rest hstart ih =>
      have hstart' : atStart? (c :: (rest ++ named.token ++ ys)) = none := by
        rw [token_eq, List.append_assoc, List.cons_append, ← List.cons_append,
          Placeholder.atStart?_append_openBrace, hstart]
      rw [List.cons_append, List.cons_append, segmentsFrom_zero_of_none hstart',
        segmentsFrom_zero_of_none hstart, ih, push_append_placeholder]
  | token first rest ih =>
      rw [List.append_assoc, List.append_assoc, segmentsFrom_token_append,
        segmentsFrom_token_append, ← List.append_assoc, ih]
      rfl

/-- No token stands in a text. Names that are no placeholder may stand there in
braces. -/
def Tokenless (xs : List Char) : Prop := ∀ named : Placeholder, ¬ named.token <:+: xs

theorem Tokenless.of_infix (h : Tokenless xs) (hpart : ys <:+: xs) : Tokenless ys :=
  fun named htoken => h named (htoken.trans hpart)

theorem tokenless_nil : Tokenless [] := by
  intro named hinfix
  rw [token_eq] at hinfix
  cases List.infix_nil.1 hinfix

/-- A character may be put before a text if no token begins there, whatever
follows behind. The condition is about a longer text, for this is what is known
while a text is cut. -/
theorem Tokenless.cons (h : Tokenless ys) (hpart : ys <+: xs) (hstart : atStart? (c :: xs) = none) :
    Tokenless (c :: ys) := by
  intro named hinfix
  rcases List.infix_cons_iff.1 hinfix with hfirst | hinfix
  · have hfound : atStart? (c :: xs) = some named :=
      atStart?_eq_some_iff.2 (hfirst.trans (List.cons_prefix_cons.2 ⟨rfl, hpart⟩))
    rw [hstart] at hfound
    cases hfound
  · exact h named hinfix

/-- A text without a token is a literal. An empty one has no segments at all,
hence the condition. -/
theorem segmentsFrom_of_tokenless (h : Tokenless xs) (hxs : xs ≠ []) :
    segmentsFrom 0 xs = [.literal xs] := by
  -- No token can be met, so characters are collected in one literal.
  induction xs using tokenwise with
  | nil => exact absurd rfl hxs
  | char c rest hstart ih =>
      rw [segmentsFrom_zero_of_none hstart]
      cases rest with
      | nil => rfl
      | cons d rest =>
          rw [ih (h.of_infix (List.suffix_cons _ _).isInfix) (List.cons_ne_nil _ _)]
          rfl
  | token named rest ih => exact absurd (List.prefix_append _ _).isInfix (h named)

/-! ### Reduced cuts -/

/-- No literal is empty or has a token in it, and no two stand side by side.
Each condition rules out one way to cut a text differently. -/
structure Segment.Reduced (segments : List Segment) : Prop where
  nonempty : ∀ text, .literal text ∈ segments → text ≠ []
  tokenless : ∀ text, .literal text ∈ segments → Tokenless text
  separate : ∀ a b, ¬ [.literal a, .literal b] <:+: segments

namespace Segment.Reduced

theorem nil : Reduced [] where
  nonempty _ h := nomatch h
  tokenless _ h := nomatch h
  separate _ _ h := nomatch List.infix_nil.1 h

/-- What is left of reduced segments when some are taken from the front is
reduced. -/
theorem of_suffix {later : List Segment} (h : Reduced segments) (hpart : later <:+ segments) :
    Reduced later where
  nonempty text hmem := h.nonempty text (hpart.subset hmem)
  tokenless text hmem := h.tokenless text (hpart.subset hmem)
  separate a b hpair := h.separate a b (hpair.trans hpart.isInfix)

theorem placeholder_cons (h : Reduced segments) (named : Placeholder) :
    Reduced (.placeholder named :: segments) where
  nonempty text hmem := h.nonempty text (by simpa using hmem)
  tokenless text hmem := h.tokenless text (by simpa using hmem)
  separate a b hinfix := by
    rcases List.infix_cons_iff.1 hinfix with hprefix | hinfix
    · cases (List.cons_prefix_cons.1 hprefix).1
    · exact h.separate a b hinfix

/-- A literal may stand in front of anything but another one. It must not be
empty nor have a token in it. -/
theorem literal_cons (h : Reduced segments) (hxs : xs ≠ []) (htokenless : Tokenless xs)
    (hhead : ∀ text, segments.head? ≠ some (.literal text)) :
    Reduced (.literal xs :: segments) where
  nonempty text hmem := by
    rcases List.mem_cons.1 hmem with heq | hmem
    · cases heq
      exact hxs
    · exact h.nonempty text hmem
  tokenless text hmem := by
    rcases List.mem_cons.1 hmem with heq | hmem
    · cases heq
      exact htokenless
    · exact h.tokenless text hmem
  separate a b hinfix := by
    rcases List.infix_cons_iff.1 hinfix with hprefix | hinfix
    · obtain ⟨later, hlater⟩ := (List.cons_prefix_cons.1 hprefix).2
      exact hhead b (by rw [← hlater]; rfl)
    · exact h.separate a b hinfix

/-- A character may be put before segments if no token begins there. It becomes
a literal, or a part of the one that is there. -/
theorem push (h : Reduced segments) (hstart : atStart? (c :: textOf segments) = none) :
    Reduced (Segment.push c segments) := by
  cases segments with
  | nil =>
      exact nil.literal_cons (List.cons_ne_nil _ _)
        (tokenless_nil.cons (List.nil_prefix) hstart) nofun
  | cons segment rest =>
      cases segment with
      | placeholder named =>
          exact h.literal_cons (List.cons_ne_nil _ _)
            (tokenless_nil.cons (List.nil_prefix) hstart) nofun
      | literal text =>
          -- The literal that is there is what the text begins with.
          refine (h.of_suffix (List.suffix_cons _ _)).literal_cons (List.cons_ne_nil _ _)
            ((h.tokenless text List.mem_cons_self).cons (List.prefix_append _ _) hstart) ?_
          intro other hother
          obtain ⟨later, rfl⟩ := List.head?_eq_some_iff.1 hother
          exact h.separate text other ⟨[], later, rfl⟩

end Segment.Reduced

/-- The segments of a text are reduced, since a character is put into a literal
only where no token begins. -/
theorem reduced_segmentsFrom (xs : List Char) : Segment.Reduced (segmentsFrom 0 xs) := by
  induction xs using tokenwise with
  | nil => exact .nil
  | char c rest hstart ih =>
      rw [segmentsFrom_zero_of_none hstart]
      exact ih.push (by rwa [textOf_segmentsFrom])
  | token named rest ih =>
      rw [segmentsFrom_token_append]
      exact ih.placeholder_cons named

/-- Reduced segments are those of the text that they are written as. So they
can be written and found again. -/
theorem segmentsFrom_textOf (h : Segment.Reduced segments) :
    segmentsFrom 0 (textOf segments) = segments := by
  -- On the segments. A literal is cut off together with the token behind it, or it is the last
  -- segment.
  induction segments with
  | nil => rfl
  | cons segment rest ih =>
      have hrest := ih (h.of_suffix (List.suffix_cons _ _))
      cases segment with
      | placeholder named =>
          refine (segmentsFrom_token_append named (textOf rest)).trans ?_
          rw [hrest]
      | literal text =>
          have htext : segmentsFrom 0 text = [.literal text] :=
            segmentsFrom_of_tokenless (h.tokenless text List.mem_cons_self)
              (h.nonempty text List.mem_cons_self)
          cases rest with
          | nil =>
              show segmentsFrom 0 (text ++ []) = _
              rw [List.append_nil, htext]
          | cons next later =>
              cases next with
              | literal other => exact absurd ⟨[], later, rfl⟩ (h.separate text other)
              | placeholder named =>
                  -- The text falls apart at the token that ends the literal.
                  have hlater : segmentsFrom 0 (named.token ++ textOf later)
                      = .placeholder named :: later := hrest
                  show segmentsFrom 0 (text ++ (named.token ++ textOf later)) = _
                  rw [← List.append_assoc, segmentsFrom_append_token, htext,
                    ← segmentsFrom_token_append, hlater]
                  rfl

/-- Of all ways to cut a text the one into its segments is reduced, and no
other. -/
theorem segmentsFrom_eq_iff :
    segmentsFrom 0 xs = segments ↔ Segment.Reduced segments ∧ textOf segments = xs := by
  constructor
  · rintro rfl
    exact ⟨reduced_segmentsFrom xs, textOf_segmentsFrom xs⟩
  · rintro ⟨hreduced, rfl⟩
    exact segmentsFrom_textOf hreduced

/-! ### From brace to brace -/

/-- The placeholder whose token has this content, if there is one. The prefix
is taken off, and the name is looked for. -/
def ofContent? (content : List Char) : Option Placeholder := do
  let name ← "xsa-placeholder-".toList.isPrefixOf? content
  Placeholder.all.find? fun named => named.name.toList = name

/-- What stands before and behind the next brace, if that is a closing one. An
opening one starts anew. -/
def closed? (cs : List Char) : Option (List Char × List Char) :=
  (Text.cutFirst? ['\x7d'] cs).filter fun parts => '\x7b' ∉ parts.1

/-- A literal that has been held back, unless it is empty. -/
def flush (literal : List Char) : List Segment :=
  if literal.isEmpty then [] else [.literal literal]

/-- The parts of a cut at a brace are shorter, so that a scan comes to an
end. -/
theorem length_lt_of_closed? {content later : List Char} (h : closed? xs = some (content, later)) :
    later.length < xs.length := by
  rw [Text.eq_append_of_cutFirst? (Option.filter_eq_some_iff.1 h).1]
  simp only [List.length_append, List.length_cons, List.length_nil]
  omega

/-- The segments of a text behind a literal that is held back. Every step goes
on behind a brace, with what has been passed over added to the literal. -/
def scanFrom (literal rest : List Char) : List Segment :=
  match hopen : Text.cutFirst? ['\x7b'] rest with
  | none => flush (literal ++ rest)
  | some (before, behind) =>
    have hbehind : behind.length < rest.length := by
      rw [Text.eq_append_of_cutFirst? hopen]
      simp only [List.length_append, List.length_cons, List.length_nil]
      omega
    match hclosed : closed? behind with
    | none => scanFrom (literal ++ before ++ ['\x7b']) behind
    | some (content, later) =>
      have hlater := length_lt_of_closed? hclosed
      match ofContent? content with
      | none => scanFrom (literal ++ before ++ '\x7b' :: content ++ ['\x7d']) later
      | some named => flush (literal ++ before) ++ .placeholder named :: scanFrom [] later
termination_by rest.length

/-- The segments of a text, found from brace to brace. At first nothing is held
back. -/
def scan (text : String) : List Segment := scanFrom [] text.toList

/-- Values are put in place only in texts that have an opening brace. Other
texts are returned without being scanned. -/
def substituteScanned (values : Values) (text : String) : String :=
  if text.toList.contains '\x7b' then join values (scan text) else text

/-- A content is that of a token exactly if it is the content of its
placeholder. -/
theorem ofContent?_eq_some_iff : ofContent? xs = some named ↔ xs = named.content := by
  unfold ofContent? Placeholder.content
  constructor
  · intro h
    obtain ⟨name, hname, hnamed⟩ := Option.bind_eq_some_iff.1 h
    have hfound := List.find?_some hnamed
    rw [← List.isPrefixOf?_eq_some_iff_append_eq.1 hname, of_decide_eq_true hfound]
  · rintro rfl
    refine Option.bind_eq_some_iff.2 ⟨_, List.isPrefixOf?_eq_some_iff_append_eq.2 rfl, ?_⟩
    cases named <;> decide

/-- What is cut at a closing brace has no braces before it, of neither kind. -/
theorem closed?_eq_some_iff {content later : List Char} : closed? xs = some (content, later) ↔
    xs = content ++ '\x7d' :: later ∧ '\x7b' ∉ content ∧ '\x7d' ∉ content := by
  unfold closed?
  rw [Option.filter_eq_some_iff, Text.cutFirst?_eq_some_iff, decide_eq_true_eq]
  tauto

/-- Behind an opening brace the next one decides whether a token begins there.
This is what the scan relies on. -/
theorem atStart?_openBrace (xs : List Char) :
    atStart? ('\x7b' :: xs) = (closed? xs).bind fun parts => ofContent? parts.1 := by
  refine Option.ext fun named => ?_
  rw [atStart?_eq_some_iff, token_eq, List.cons_prefix_cons, and_iff_right rfl,
    Option.bind_eq_some_iff]
  constructor
  · rintro ⟨later, rfl⟩
    refine ⟨(named.content, later), closed?_eq_some_iff.2 ⟨by simp, ?_⟩,
      ofContent?_eq_some_iff.2 rfl⟩
    exact Placeholder.brace_notMem_content named
  · rintro ⟨⟨content, later⟩, hclosed, hnamed⟩
    obtain ⟨rfl, -⟩ := closed?_eq_some_iff.1 hclosed
    obtain rfl := ofContent?_eq_some_iff.1 hnamed
    -- The content between the two braces is that of a token.
    exact ⟨later, by simp⟩

/-- Characters put before nothing, one by one, are a literal of them all. -/
theorem foldr_push_nil (xs : List Char) : xs.foldr Segment.push [] = flush xs := by
  induction xs with
  | nil => rfl
  | cons x xs ih =>
      rw [List.foldr_cons, ih]
      cases xs <;> rfl

/-- Before a placeholder a literal is put as it has been held back. A literal
in front of it would be extended instead. -/
theorem foldr_push_placeholder (xs : List Char) (named : Placeholder) (segments : List Segment) :
    xs.foldr Segment.push (.placeholder named :: segments)
      = flush xs ++ .placeholder named :: segments := by
  rw [← foldr_push_nil]
  induction xs with
  | nil => rfl
  | cons x xs ih => rw [List.foldr_cons, List.foldr_cons, ih, push_append_placeholder]

/-- Up to the first opening brace a text is a literal, put in front of what
follows. -/
theorem segmentsFrom_append_of_notMem (h : '\x7b' ∉ xs) (ys : List Char) :
    segmentsFrom 0 (xs ++ ys) = xs.foldr Segment.push (segmentsFrom 0 ys) := by
  induction xs with
  | nil => rfl
  | cons x xs ih =>
      obtain ⟨hx, hxs⟩ := not_or.1 (mt List.mem_cons.2 h)
      rw [List.cons_append, segmentsFrom_zero_of_none (atStart?_eq_none (Ne.symm hx)), ih hxs]
      rfl

/-- Both ways find the same segments, put behind the literal that is held back.
The statement is for any such literal, since it grows with every step. -/
theorem scanFrom_eq (literal rest : List Char) :
    scanFrom literal rest = literal.foldr Segment.push (segmentsFrom 0 rest) := by
  -- What a step passes over is put behind the literal, so the induction is for any literal.
  fun_induction scanFrom literal rest with
  | case1 literal rest hopen =>
      have hrest := segmentsFrom_append_of_notMem (Text.cutFirst?_eq_none_iff.1 hopen) []
      rw [List.append_nil] at hrest
      rw [hrest, ← List.foldr_append]
      exact (foldr_push_nil _).symm
  | case2 literal rest before behind hopen hbehind hclosed ih =>
      obtain ⟨rfl, hbefore⟩ := Text.cutFirst?_eq_some_iff.1 hopen
      have hstart : atStart? ('\x7b' :: behind) = none := by rw [atStart?_openBrace, hclosed]; rfl
      rw [ih, segmentsFrom_append_of_notMem hbefore, segmentsFrom_zero_of_none hstart]
      simp only [List.foldr_append, List.foldr_cons, List.foldr_nil]
  | case3 literal rest before behind hopen hbehind content later hclosed hlater hnamed ih =>
      obtain ⟨rfl, hbefore⟩ := Text.cutFirst?_eq_some_iff.1 hopen
      have hstart : atStart? ('\x7b' :: behind) = none := by
        rw [atStart?_openBrace, hclosed]
        exact hnamed
      obtain ⟨rfl, hcontent, -⟩ := closed?_eq_some_iff.1 hclosed
      -- The closing brace is a part of the literal as well.
      have hexpression : segmentsFrom 0 (content ++ '\x7d' :: later)
          = (content ++ ['\x7d']).foldr Segment.push (segmentsFrom 0 later) := by
        rw [List.append_cons]
        exact segmentsFrom_append_of_notMem (by simp [hcontent]) later
      rw [ih, segmentsFrom_append_of_notMem hbefore, segmentsFrom_zero_of_none hstart, hexpression]
      simp only [List.foldr_append, List.foldr_cons, List.foldr_nil]
  | case4 literal rest before behind hopen hbehind content later hclosed hlater named hnamed ih =>
      -- A placeholder ends the literal, and the scan goes on with an empty one.
      obtain ⟨rfl, hbefore⟩ := Text.cutFirst?_eq_some_iff.1 hopen
      obtain ⟨rfl, -⟩ := closed?_eq_some_iff.1 hclosed
      obtain rfl := ofContent?_eq_some_iff.1 hnamed
      have htoken : '\x7b' :: (named.content ++ '\x7d' :: later) = named.token ++ later := by
        rw [token_eq, List.cons_append, List.append_assoc]
        rfl
      rw [ih, segmentsFrom_append_of_notMem hbefore, htoken, segmentsFrom_token_append,
        ← List.foldr_append, foldr_push_placeholder]
      rfl

/-- From brace to brace the same segments are found as character by
character. -/
theorem scan_eq_parse (text : String) : scan text = parse text := scanFrom_eq [] text.toList

/-- A text without an opening brace may be left as it is, since it has no
token. -/
theorem substituteScanned_eq (values : Values) (text : String) :
    substituteScanned values text = substitute values text := by
  unfold substituteScanned
  split
  · rw [scan_eq_parse]
    rfl
  · rename_i hbrace
    rw [← String.toList_inj, toList_substitute, resolveFrom_of_notMem]
    simpa using hbrace

/-! ### Texts -/

/-- A placeholder has its value, else the token that it is written as. -/
theorem ofList_resolve (values : Values) (named : Placeholder) :
    String.ofList ((Segment.placeholder named).resolve values)
      = (values.get? named).getD (String.ofList named.token) := by
  cases hvalue : values.get? named with
  | none => rw [resolve_of_none hvalue, Option.getD_none]
  | some value => rw [resolve_of_some hvalue, String.ofList_toList, Option.getD_some]

/-- Every token makes way for its value, and the text around it is substituted
by itself. The value is not looked at again. -/
theorem substitute_append_token (values : Values) (before : String) (named : Placeholder)
    (after : String) :
    substitute values (before ++ String.ofList named.token ++ after) = substitute values before ++
      (values.get? named).getD (String.ofList named.token) ++ substitute values after := by
  rw [← ofList_resolve, ← String.toList_inj, toList_substitute]
  simp only [String.toList_append, String.toList_ofList, toList_substitute]
  unfold resolveFrom
  rw [segmentsFrom_append_token, List.flatMap_append, List.flatMap_cons, List.append_assoc]

/-- A text stays as it is if no token in it has a value. The values may have
braces here, as they are not used. -/
theorem resolveFrom_of_not_holdsToken (h : ¬ HoldsToken values xs) :
    resolveFrom values 0 xs = xs := by
  induction xs using tokenwise with
  | nil => rfl
  | char c rest hstart ih =>
      rw [resolveFrom_zero_of_none hstart, ih (mt (holdsToken_cons_iff hstart).2 h)]
  | token named rest ih =>
      obtain ⟨hnone, hrest⟩ := not_or.1 (mt holdsToken_token_append_iff.2 h)
      rw [resolveFrom_token_append, resolve_of_none (Option.not_isSome_iff_eq_none.1 hnone),
        ih hrest]

/-- **No text is lost and no token is missed.** The segments of a text are
written as the text again, and of all segments that are they alone are
reduced: no literal is empty or has a token in it, and no two stand side by
side. So at every token, wherever it stands, there is a placeholder, and a
substitution puts its value there, if it has one, and treats the text before
and behind it by itself; a text in which no token has a value stays as it
is. A scan from brace to brace finds the same segments, and it may be left
out where there is no opening brace. -/
theorem parse_lossless (text : String) :
    textOf (parse text) = text.toList ∧ Segment.Reduced (parse text) ∧
    (∀ segments, Segment.Reduced segments → textOf segments = text.toList →
      segments = parse text) ∧
    (∀ before named after, text = before ++ String.ofList named.token ++ after →
      parse text = parse before ++ .placeholder named :: parse after ∧
      ∀ values, substitute values text = substitute values before ++
        (values.get? named).getD (String.ofList named.token) ++ substitute values after) ∧
    (∀ values, (∀ named value, values.get? named = some value →
      ¬ named.token <:+: text.toList) → substitute values text = text) ∧
    scan text = parse text ∧
    ∀ values, substituteScanned values text = substitute values text := by
  refine ⟨textOf_segmentsFrom _, reduced_segmentsFrom _, ?_, ?_, ?_, scan_eq_parse text,
    fun values => substituteScanned_eq values text⟩
  · exact fun segments hreduced htext => (segmentsFrom_eq_iff.2 ⟨hreduced, htext⟩).symm
  · rintro before named after rfl
    refine ⟨?_, fun values => substitute_append_token values before named after⟩
    unfold parse
    simp only [String.toList_append, String.toList_ofList]
    exact segmentsFrom_append_token _ _ _
  · intro values hnone
    rw [← String.toList_inj, toList_substitute]
    refine resolveFrom_of_not_holdsToken ?_
    rintro ⟨named, value, hvalue, hinfix⟩
    exact hnone named value hvalue hinfix

/-- Braces that are not closed, nested ones and those of an unknown name are
literal, also next to a token. The token without a value is literal text to a
substitution. -/
theorem parse_lossless_braces :
    let values := knownDomain "example.com"
    let before := "a\x7bb\x7d\x7b\x7bxsa-placeholder-protocol\x7d\x7b"
    let domain := "\x7bxsa-placeholder-domain-default\x7d"
    parse (before ++ domain ++ "\x7d\x7b") = [.literal "a\x7bb\x7d\x7b".toList,
        .placeholder .protocol, .literal ['\x7b'], .placeholder .defaultDomain,
        .literal "\x7d\x7b".toList] ∧
      substitute values before = before ∧
      substitute values (before ++ domain ++ "\x7d\x7b") = before ++ "example.com\x7d\x7b" := by
  intro values before domain
  have htext : before ++ domain ++ "\x7d\x7b"
      = before ++ String.ofList (Placeholder.token .defaultDomain) ++ "\x7d\x7b" := by
    decide +kernel
  obtain ⟨-, -, -, hcut, -⟩ := parse_lossless (before ++ domain ++ "\x7d\x7b")
  obtain ⟨hparse, hsubstitute⟩ := hcut before .defaultDomain "\x7d\x7b" htext
  obtain ⟨-, -, -, -, hstays, -⟩ := parse_lossless before
  have hbefore : substitute values before = before := by
    refine hstays values fun named value hvalue => ?_
    cases named <;> cases hvalue <;> decide +kernel
  refine ⟨hparse.trans (by decide +kernel), hbefore, ?_⟩
  rw [hsubstitute values, hbefore]
  decide +kernel

end Template

end MultiTarget
