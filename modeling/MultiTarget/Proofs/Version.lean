import Mathlib.Data.List.Forall2
import MultiTarget.Proofs.Support.Cut
import MultiTarget.Proofs.Support.Numerals
import MultiTarget.Proofs.Support.Trimmed
import MultiTarget.Version

/-!
# `MultiTarget.Proofs.Version`: the texts of versions

Which texts are versions is told by a grammar (`Version.Written`): one to
three numerals with dots between them, each of a number of 64 bits, and then
nothing, or a dash or a plus and a qualifier that is not empty. Nothing is
said of the characters of the qualifier.

* `ofText?_eq_some_iff`: the texts that are read are those of the grammar.
  The first dash or plus ends the numbers, for none can stand in a numeral
  (`cutQualifier?_eq_some_iff`), and what is between the dots is read as a
  number exactly if it is a numeral (`Text.map_unsigned?_eq_iff`).
* `Written.render`: a version that has a text is rendered as one of its
  texts, with all three numbers and a dash.
* `Written.trimmed_render`: the rendering ends as the text did, so nothing is
  trimmed from it.

So the rendering of a version that was read is read as the same version
(`parse_written`).
-/

set_option autoImplicit false

namespace MultiTarget.Version

open Text (Numeral Trimmed)

variable {cs numbers rest : List Char} {qualifier : Option String} {text : String} {v : Version}

/-! ### Grammar -/

/-- What stands behind the numbers of a version: nothing, or a dash or a plus
and a qualifier, which is not empty. The qualifier may hold any characters. -/
inductive Ending : List Char → Option String → Prop where
  | plain : Ending [] none
  | qualified {c : Char} {qualifier : String} (hc : c = '-' ∨ c = '+') (hne : qualifier ≠ "") :
      Ending (c :: qualifier.toList) (some qualifier)

/-- The text of a version, without white space around it: one to three numerals
with dots between them, each of a number of 64 bits, and an ending. The numbers
of a version that are not written are zero. -/
def Written (text : List Char) (v : Version) : Prop :=
  ∃ (runs : List (List Char)) (numbers : List Nat) (rest : List Char),
    text = ['.'].intercalate runs ++ rest ∧
    List.Forall₂ Numeral runs numbers ∧ (∀ n ∈ numbers, n < 0x10000000000000000) ∧
    1 ≤ numbers.length ∧ numbers.length ≤ 3 ∧
    [v.major, v.minor, v.patch] = numbers ++ List.replicate (3 - numbers.length) 0 ∧
    Ending rest v.qualifier

/-! ### Reading -/

/-- The numbers of a version go up to the first dash or plus, and what follows
must be an ending. A sign with nothing behind it makes no version. -/
theorem cutQualifier?_eq_some_iff : cutQualifier? cs = some (numbers, qualifier) ↔
    ∃ rest, cs = numbers ++ rest ∧ (∀ c ∈ numbers, c ≠ '-' ∧ c ≠ '+') ∧ Ending rest qualifier := by
  unfold cutQualifier?
  constructor
  · intro h
    -- No sign, a sign with nothing behind it, or a qualifier.
    split at h
    · rename_i numbers' hspan
      obtain ⟨hcs, hnumbers, -⟩ := Text.span_eq_iff.1 hspan
      cases h
      exact ⟨[], hcs, by simpa using hnumbers, .plain⟩
    · cases h
    · rename_i numbers' c tail hlong hspan
      obtain ⟨hcs, hnumbers, hsign⟩ := Text.span_eq_iff.1 hspan
      cases h
      have hne : String.ofList tail ≠ "" := by
        intro hempty
        exact hlong (by simpa using hempty)
      have hending : Ending (c :: (String.ofList tail).toList) (some (String.ofList tail)) :=
        .qualified (by simpa [or_iff_not_imp_left] using hsign c rfl) hne
      rw [String.toList_ofList] at hending
      exact ⟨c :: tail, hcs, by simpa using hnumbers, hending⟩
  · rintro ⟨rest, rfl, hnumbers, hending⟩
    have hspan : (numbers ++ rest).span (fun c => c ≠ '-' && c ≠ '+') = (numbers, rest) := by
      refine Text.span_eq_iff.2 ⟨rfl, by simpa using hnumbers, ?_⟩
      rintro c hc
      cases hending with
      | plain => cases hc
      | qualified hsign _ =>
          obtain rfl := Option.some.inj hc
          rcases hsign with rfl | rfl <;> rfl
    rw [hspan]
    cases hending with
    | plain => rfl
    | @qualified c qualifier _ hne =>
        obtain ⟨d, tail, htail⟩ : ∃ d tail, qualifier.toList = d :: tail :=
          List.exists_cons_of_ne_nil (by simpa using hne)
        rw [htail]
        show some (numbers, some (String.ofList (d :: tail))) = some (numbers, some qualifier)
        rw [← htail, String.ofList_toList]

/-- A version is read from the pieces between the dots of its numbers. This
follows the reader; the grammar speaks of numerals that are joined. -/
theorem ofText?_eq_some_iff_pieces : ofText? text = some v ↔
    ∃ (digits : List Char) (numbers : List Nat),
      cutQualifier? (Text.trim text.toList) = some (digits, v.qualifier) ∧
      (Text.pieces '.' digits).map (Text.unsigned? 0x10000000000000000) = numbers.map some ∧
      1 ≤ numbers.length ∧ numbers.length ≤ 3 ∧
      [v.major, v.minor, v.patch] = numbers ++ List.replicate (3 - numbers.length) 0 := by
  unfold ofText?
  constructor
  · intro h
    obtain ⟨⟨digits, qualifier⟩, hcut, h⟩ := Option.bind_eq_some_iff.1 h
    dsimp only at h
    -- One, two or three numbers; the others are zero.
    split at h
    · rename_i major hpieces
      cases h
      exact ⟨digits, [major], hcut, hpieces, by simp⟩
    · rename_i major minor hpieces
      cases h
      exact ⟨digits, [major, minor], hcut, hpieces, by simp⟩
    · rename_i major minor patch hpieces
      cases h
      exact ⟨digits, [major, minor, patch], hcut, hpieces, by simp⟩
    · cases h
  · rintro ⟨digits, numbers, hcut, hpieces, hpos, hlength, hnumbers⟩
    obtain ⟨major, minor, patch, qualifier⟩ := v
    simp only [Option.bind_eq_bind, hcut, Option.bind_some, hpieces]
    match numbers with
    | [_] | [_, _] | [_, _, _] =>
        cases hnumbers
        rfl

/-- **Which texts are versions.** A version is read from the texts of the
grammar, white space around them left aside, and from no others. One direction
cuts a text, the other cuts what has been joined. -/
theorem ofText?_eq_some_iff : ofText? text = some v ↔ Written (Text.trim text.toList) v := by
  rw [ofText?_eq_some_iff_pieces]
  constructor
  · rintro ⟨digits, numbers, hcut, hpieces, hpos, hlength, hnumbers⟩
    obtain ⟨rest, htext, hsigns, hending⟩ := cutQualifier?_eq_some_iff.1 hcut
    have hjoin : ['.'].intercalate (Text.pieces '.' digits) = digits := by
      rw [Text.pieces_eq_splitOn]
      exact List.intercalate_splitOn '.'
    have hplus : ∀ run ∈ Text.pieces '.' digits, '+' ∉ run := fun run hrun hmem =>
      (hsigns '+' (hjoin ▸ Text.mem_intercalate hrun hmem)).2 rfl
    obtain ⟨hruns, hlimit⟩ := (Text.map_unsigned?_eq_iff hplus).1 hpieces
    exact ⟨_, numbers, rest, hjoin.symm ▸ htext, hruns, hlimit, hpos, hlength, hnumbers, hending⟩
  · rintro ⟨runs, numbers, rest, htext, hruns, hlimit, hpos, hlength, hnumbers, hending⟩
    -- Numerals have neither dots nor signs, so both cuts are where the runs were joined.
    have hnotMem : ∀ c : Char, c.isDigit = false → ∀ run ∈ runs, c ∉ run := fun c hc run hrun =>
      Text.notMem_of_numerals hruns hrun hc
    have hsigns : ∀ c ∈ ['.'].intercalate runs, c ≠ '-' ∧ c ≠ '+' := by
      intro c hc
      rcases Text.mem_of_mem_intercalate hc with rfl | ⟨run, hrun, hmem⟩
      · decide
      · exact ⟨fun heq => hnotMem '-' (by decide) run hrun (heq ▸ hmem),
          fun heq => hnotMem '+' (by decide) run hrun (heq ▸ hmem)⟩
    have hpieces : Text.pieces '.' (['.'].intercalate runs) = runs := by
      rw [Text.pieces_eq_splitOn]
      refine List.splitOn_intercalate '.' (hnotMem '.' (by decide)) ?_
      rintro rfl
      have hlengths := hruns.length_eq
      simp at hlengths
      omega
    refine ⟨_, numbers, cutQualifier?_eq_some_iff.2 ⟨rest, htext, hsigns, hending⟩, ?_, hpos,
      hlength, hnumbers⟩
    rw [hpieces]
    exact (Text.map_unsigned?_eq_iff (hnotMem '+' (by decide))).2 ⟨hruns, hlimit⟩

/-- The same for the version of an application, whose name is in errors
only. -/
theorem parse_eq_ok_iff {mta : String} :
    parse mta text = .ok v ↔ Written (Text.trim text.toList) v := by
  rw [← ofText?_eq_some_iff, parse]
  cases ofText? text <;> simp

/-! ### Rendering -/

/-- The ending that a qualifier is rendered as. It always has a dash, also
where a plus was read. -/
def endingOf : Option String → List Char
  | none => []
  | some qualifier => '-' :: qualifier.toList

/-- A version is rendered as its three numbers and the ending. -/
theorem toList_render (v : Version) :
    v.render.toList = ['.'].intercalate
      [Nat.toDigits 10 v.major, Nat.toDigits 10 v.minor, Nat.toDigits 10 v.patch]
        ++ endingOf v.qualifier := by
  obtain ⟨major, minor, patch, qualifier⟩ := v
  cases qualifier <;> simp [render, endingOf, toString, Nat.toList_repr]

/-- A version that has a text is rendered as one of its texts. A version with a
larger number or an empty qualifier has none. -/
theorem Written.render (h : Written cs v) : Written v.render.toList v := by
  obtain ⟨runs, numbers, rest, -, -, hlimit, -, -, hnumbers, hending⟩ := h
  have hfields : ∀ n ∈ [v.major, v.minor, v.patch], n < 0x10000000000000000 := by
    intro n hn
    rw [hnumbers, List.mem_append, List.mem_replicate] at hn
    rcases hn with hn | ⟨-, rfl⟩
    · exact hlimit n hn
    · decide
  refine ⟨_, [v.major, v.minor, v.patch], endingOf v.qualifier, v.toList_render, ?_, hfields,
    by simp, by simp, by simp, ?_⟩
  · exact .cons (Text.numeral_toDigits _) (.cons (Text.numeral_toDigits _)
      (.cons (Text.numeral_toDigits _) .nil))
  · generalize v.qualifier = qualifier at hending
    cases hending with
    | plain => exact .plain
    | qualified _ hne => exact .qualified (.inl rfl) hne

/-- If the text of a version has no white space at its ends, its rendering has
none. White space at the end of the qualifier would otherwise be lost when the
rendering is read. -/
theorem Written.trimmed_render (h : Written cs v) (hcs : Trimmed cs) :
    Trimmed v.render.toList := by
  obtain ⟨runs, numbers, rest, htext, -, -, -, -, -, hending⟩ := h
  have hdigits : ∀ n, Trimmed (Nat.toDigits 10 n) := fun n =>
    Text.trimmed_of_isDigit (Text.numeral_toDigits n).digits
  have hdot : Trimmed ['.'] := ⟨by simp [Text.isBlank], by simp [Text.isBlank]⟩
  have hend : Trimmed (endingOf v.qualifier) := by
    -- The rendering ends with a digit, or as the text did.
    generalize v.qualifier = qualifier at hending
    cases hending with
    | plain => exact ⟨by simp [endingOf], by simp [endingOf]⟩
    | @qualified c qualifier _ hne =>
        -- The qualifier may begin with a blank, but the text ends with its last character.
        have hnonempty : qualifier.toList ≠ [] := by simpa using hne
        refine ⟨by simp [endingOf, Text.isBlank], fun d hd => hcs.last d ?_⟩
        rw [htext, List.getLast?_append_cons, List.getLast?_cons_of_ne_nil hnonempty]
        rwa [endingOf, List.getLast?_cons_of_ne_nil hnonempty] at hd
  rw [toList_render, List.intercalate_cons_cons, List.intercalate_cons_cons,
    List.intercalate_singleton]
  exact (((hdigits _).append hdot).append (((hdigits _).append hdot).append (hdigits _))).append
    hend

/-! ### Texts of versions -/

/-- **The grammar of versions.** A text is accepted exactly if, without the
white space around it, it is written by the grammar, and every other text is
refused as it stands. The rendering of a version that was accepted is read as
this version.

No text is written in two ways, which is why reading can be said to give the
version. -/
theorem parse_written (mta : String) :
    (∀ text v, parse mta text = .ok v ↔ Written (Text.trim text.toList) v) ∧
    (∀ text, (¬ ∃ v, Written (Text.trim text.toList) v) ↔
      parse mta text = .error (.invalidVersion mta text)) ∧
    ∀ text v, parse mta text = .ok v → parse mta v.render = .ok v := by
  refine ⟨fun text v => parse_eq_ok_iff, fun text => ?_, fun text v h => ?_⟩
  · simp only [← ofText?_eq_some_iff, parse]
    cases ofText? text <;> simp
  · have hwritten : Written (Text.trim text.toList) v := parse_eq_ok_iff.1 h
    have htrim := (hwritten.trimmed_render (Text.trimmed_trim _)).trim_eq
    exact parse_eq_ok_iff.2 (htrim.symm ▸ hwritten.render)

/-- Zeros in front, a plus and white space on both sides of it: what is
rendered differs from what was read, and is read as the same version. -/
theorem parse_written_padded :
    parse "shop" " 01.2+ a-b\t" = .ok ⟨1, 2, 0, some " a-b"⟩ ∧
    render ⟨1, 2, 0, some " a-b"⟩ = "1.2.0- a-b" ∧
    parse "shop" "1.2.0- a-b" = .ok ⟨1, 2, 0, some " a-b"⟩ := by
  have hread : parse "shop" " 01.2+ a-b\t" = .ok ⟨1, 2, 0, some " a-b"⟩ := by decide +kernel
  have hrender : render ⟨1, 2, 0, some " a-b"⟩ = "1.2.0- a-b" := by decide +kernel
  exact ⟨hread, hrender, hrender ▸ (parse_written "shop").2.2 _ _ hread⟩

end MultiTarget.Version
