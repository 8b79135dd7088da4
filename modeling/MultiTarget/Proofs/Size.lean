import MultiTarget.Proofs.Support.Numerals
import MultiTarget.Proofs.Support.Trimmed
import MultiTarget.Size

/-!
# `MultiTarget.Proofs.Size`: when sizes are exact

The text of a size, in capitals, is a numeral and the name of a unit, with
blanks between them if need be; without a unit it counts megabytes
(`Size.Written`). A text is searched for one name after the other, and the
first that it ends with is the one that it was written with
(`splitUnit_append`), so the number and the unit come out as they went in.

What is counted are kilobytes, and their number is held at the greatest one of
64 bits before it is divided. `ofText?_of_written` is the result for every
size. It is the exact number of megabytes exactly if the kilobytes have 64
bits (`megabytes_exact_iff`), which is less than what the megabytes would
allow: a whole number is kept as it is, and its digits are not.
-/

set_option autoImplicit false

namespace MultiTarget.Size

open Text (Numeral)

variable {text name : String} {amount : Nat} {cs blanks : List Char}

/-! ### Grammar -/

/-- What a unit counts. There are three, and each has names of one letter and
of two. -/
inductive Magnitude where
  | kilo
  | mega
  | giga
  deriving DecidableEq, Repr

namespace Magnitude

/-- The names of a unit, in capitals. Megabytes are counted where none is
given, so that no name is one of theirs. -/
def names : Magnitude → List String
  | kilo => ["K", "KB"]
  | mega => ["M", "MB", ""]
  | giga => ["G", "GB"]

/-- A unit in kilobytes. These are counted, since they are the smallest of the
three. -/
def kilobytes : Magnitude → Nat
  | kilo => 1
  | mega => 1024
  | giga => 1024 * 1024

end Magnitude

/-- The text of a size: in capitals, and without white space around it, it is a
numeral and the name of a unit behind blanks. A text is written in one way at
most. -/
def Written (text : String) (amount : Nat) (magnitude : Magnitude) : Prop :=
  ∃ (digits blanks : List Char) (name : String),
    (Text.trim text.toList).map Char.toUpper = digits ++ blanks ++ name.toList ∧
    Numeral digits amount ∧ (∀ c ∈ blanks, Text.isBlank c = true) ∧ name ∈ magnitude.names

variable {magnitude : Magnitude}

/-! ### Reading -/

/-- A text that ends with no letter of a name, with a name behind it, is
divided between the two. The condition on the last letter keeps a longer name
from being found. -/
theorem splitUnit_append {c : Char} (hlast : cs.getLast? = some c)
    (hletter : c ∉ ['B', 'G', 'K', 'M']) (hname : name ∈ magnitude.names) :
    splitUnit (cs ++ name.toList) = (cs, magnitude.kilobytes) := by
  obtain ⟨init, rfl⟩ := List.getLast?_eq_some_iff.1 hlast
  simp only [List.mem_cons, List.not_mem_nil, or_false, not_or] at hletter
  obtain ⟨hB, hG, hK, hM⟩ := hletter
  -- Of every name in turn, the last letter is compared and then the one before it.
  revert name
  cases magnitude <;>
    simp [Magnitude.names, Magnitude.kilobytes, splitUnit, units, Text.dropSuffix?,
      List.isPrefixOf?, Ne.symm hB, Ne.symm hG, Ne.symm hK, Ne.symm hM]

/-- Neither a digit nor a blank is a letter of a name. These are what stands in
front of a name. -/
theorem notMem_of_isDigit_or_isBlank {c : Char} (h : c.isDigit = true ∨ Text.isBlank c = true) :
    c ∉ ['B', 'G', 'K', 'M'] := by
  intro hmem
  simp only [List.mem_cons, List.not_mem_nil, or_false] at hmem
  rcases hmem with rfl | rfl | rfl | rfl <;> revert h <;> decide

/-- **The result for every size.** The kilobytes, held at the greatest number
of these, are rounded down to megabytes. The number itself must have 64 bits,
as it is refused otherwise. -/
theorem ofText?_of_written (h : Written text amount magnitude)
    (hamount : amount < 0x10000000000000000) :
    ofText? text = some (min (amount * magnitude.kilobytes) maxKilobytes / 1024) := by
  obtain ⟨digits, blanks, name, htext, hdigits, hblanks, hname⟩ := h
  have hne : digits ++ blanks ≠ [] := List.append_ne_nil_of_left_ne_nil hdigits.nonempty _
  have hlast := List.getLast?_eq_some_getLast hne
  -- What stands in front of the name is a digit or a blank.
  have hletter : (digits ++ blanks).getLast hne ∉ ['B', 'G', 'K', 'M'] := by
    refine notMem_of_isDigit_or_isBlank ?_
    rcases List.mem_append.1 (List.getLast_mem hne) with hmem | hmem
    · exact .inl (hdigits.digits _ hmem)
    · exact .inr (hblanks _ hmem)
  have hsplit := splitUnit_append hlast hletter hname
  have htrim : Text.trim (digits ++ blanks) = digits :=
    (Text.trimmed_of_isDigit hdigits.digits).trim_append hblanks
  have hread : Text.unsigned? 0x10000000000000000 digits = some amount :=
    (Text.unsigned?_eq_some_iff (hdigits.notMem (by decide))).2 ⟨hdigits, hamount⟩
  rw [ofText?, htext, hsplit]
  simp only [htrim, hread, Option.map_some]

/-- Digits are the same in capitals, so that the numeral of a text is not
changed by them. -/
theorem toUpper_of_isDigit {c : Char} (h : c.isDigit = true) : c.toUpper = c := by
  have hdigit : c.toNat ≤ 57 := (Char.isDigit_iff_toNat.1 h).2
  exact dif_neg fun hletter =>
    absurd (Nat.le_trans (UInt32.le_iff_toNat_le.1 hletter.1) hdigit) (by decide)

/-- A number of 64 bits is its own number of megabytes. It is not counted in
kilobytes on the way. -/
theorem megabytes_int {owner : String} {n : Nat} (hn : n < 0x10000000000000000) :
    megabytes owner (.int n) = .ok n := by
  have hfits : Json.isUnsigned (n : Int) = true := by
    simp only [Json.isUnsigned, Bool.and_eq_true, decide_eq_true_eq]
    omega
  have hread : Json.unsigned? (.int n) = some n := by
    rw [Json.unsigned?, if_pos hfits, Int.toNat_natCast]
  rw [megabytes, ofJson?, hread]
  simp only [reduceCtorEq, imp_self, implies_true]

/-- The digits of a number are the text of as many megabytes. -/
theorem written_toString (n : Nat) : Written (toString n) n .mega := by
  have hdigits := Text.numeral_toDigits n
  have hupper : (Nat.toDigits 10 n).map Char.toUpper = Nat.toDigits 10 n :=
    (List.map_congr_left fun c hc => toUpper_of_isDigit (hdigits.digits c hc)).trans (List.map_id _)
  refine ⟨Nat.toDigits 10 n, [], "", ?_, hdigits, by simp, by simp [Magnitude.names]⟩
  have htext : (toString n).toList = Nat.toDigits 10 n := by simp [toString, Nat.toList_repr]
  rw [htext, (Text.trimmed_of_isDigit hdigits.digits).trim_eq, hupper]
  simp

/-! ### Exactness -/

/-- A result is exact: it is the number of megabytes if this has 64 bits, and
an error if it has not. -/
def Exact (result : Except ContentError Nat) (megabytes : Nat) : Prop :=
  if megabytes < 0x10000000000000000 then result = .ok megabytes
  else ∃ error, result = .error error

/-- The quotient of a number that is held is the exact one if nothing had to be
held, and is less otherwise. Nothing is lost by the rounding, as the greatest
number of kilobytes is one below a whole number of megabytes. -/
theorem exact_min_iff (kilobytes : Nat) :
    Exact (.ok (min kilobytes maxKilobytes / 1024)) (kilobytes / 1024) ↔
      kilobytes ≤ maxKilobytes := by
  rw [Exact]
  -- A number of megabytes beyond 64 bits would have to be an error, and is none.
  split
  · rw [Except.ok.injEq]
    simp only [maxKilobytes]
    omega
  · simp only [maxKilobytes, reduceCtorEq, exists_false, false_iff]
    omega

/-- **When sizes are exact.** A text of a number and a unit is read as the
exact number of megabytes, or refused if this has not 64 bits, exactly if the
kilobytes have 64 bits. All texts with more of them are read alike. So a whole
number and its digits are the same size only below 2^54. -/
theorem megabytes_exact_iff (owner : String) :
    (∀ text amount magnitude, Written text amount magnitude → amount < 0x10000000000000000 →
      (Exact (megabytes owner (.str text)) (amount * magnitude.kilobytes / 1024) ↔
        amount * magnitude.kilobytes ≤ maxKilobytes) ∧
      (maxKilobytes < amount * magnitude.kilobytes →
        megabytes owner (.str text) = .ok (maxKilobytes / 1024))) ∧
    ∀ n : Nat, n < 0x10000000000000000 →
      (megabytes owner (.int n) = megabytes owner (.str (toString n)) ↔ n < 0x40000000000000) := by
  have hread : ∀ {text amount magnitude}, Written text amount magnitude →
      amount < 0x10000000000000000 →
      megabytes owner (.str text)
        = .ok (min (amount * magnitude.kilobytes) maxKilobytes / 1024) := by
    intro text amount magnitude hwritten hamount
    rw [megabytes, ofJson?, ofText?_of_written hwritten hamount]
  refine ⟨fun text amount magnitude hwritten hamount => ?_, fun n hn => ?_⟩
  · rw [hread hwritten hamount]
    refine ⟨exact_min_iff _, fun hmore => ?_⟩
    rw [Nat.min_eq_right (Nat.le_of_lt hmore)]
  · rw [megabytes_int hn, hread (written_toString n) hn, Except.ok.injEq]
    simp only [Magnitude.kilobytes, maxKilobytes]
    omega

/-- A number of gigabytes is one megabyte short, and a number of megabytes
shrinks to a thousandth as soon as it stands in quotation marks. -/
theorem megabytes_exact_iff_vast :
    Written " 17592186044416 gb" 17592186044416 .giga ∧
    megabytes "web" (.str " 17592186044416 gb") = .ok 18014398509481983 ∧
    ¬ Exact (megabytes "web" (.str " 17592186044416 gb")) 18014398509481984 ∧
    megabytes "web" (.int 18446744073709551615) = .ok 18446744073709551615 ∧
    megabytes "web" (.int 18446744073709551615)
      ≠ megabytes "web" (.str (toString 18446744073709551615)) := by
  have hwritten : Written " 17592186044416 gb" 17592186044416 .giga :=
    ⟨"17592186044416".toList, [' '], "GB", by decide +kernel,
      Text.digits?_eq_some_iff.1 (by decide +kernel), List.forall_mem_singleton.2 (by decide),
      by decide⟩
  obtain ⟨htexts, hnumbers⟩ := megabytes_exact_iff "web"
  obtain ⟨hexact, hheld⟩ := htexts _ _ _ hwritten (by decide)
  refine ⟨hwritten, hheld (by decide), fun h => ?_, by decide +kernel, fun h => ?_⟩
  · exact absurd (hexact.1 h) (by decide)
  · exact absurd ((hnumbers _ (by decide)).1 h) (by decide)

end MultiTarget.Size
