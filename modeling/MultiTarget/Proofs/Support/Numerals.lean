import Mathlib.Data.List.Forall2
import MultiTarget.Text.Numeral

/-!
# `MultiTarget.Proofs.Support.Numerals`: runs of digits and their numbers

A numeral is a nonempty run of ASCII digits, with the number that it denotes
in base ten (`Text.Numeral`). The readers of numbers read numerals and nothing
else (`digits?_eq_some_iff`), and where there is no plus sign this goes for
the one that would skip it (`unsigned?_eq_some_iff`). The digits that a number
is written with are a numeral of it (`numeral_toDigits`), and there are more
of them: zeros may stand in front.

These lemmas belong to no single part of a model, so this module sits
outside the modules for those parts.
-/

set_option autoImplicit false

namespace MultiTarget.Text

/-- A nonempty run of ASCII digits and the number that it denotes in base ten.
Zeros in front are allowed, so a number has many numerals and a numeral has one
number. -/
structure Numeral (run : List Char) (n : Nat) : Prop where
  nonempty : run ≠ []
  digits : ∀ c ∈ run, c.isDigit = true
  value : Nat.ofDigitChars 10 run 0 = n

variable {cs run : List Char} {limit n : Nat} {c : Char}

/-- What is no digit does not stand in a numeral. So a separator or a unit next
to a numeral can be told from it. -/
theorem Numeral.notMem (h : Numeral run n) (hc : c.isDigit = false) : c ∉ run := by
  intro hmem
  rw [h.digits c hmem] at hc
  cases hc

/-- What is no digit stands in none of several numerals, such as the components
of a version, so that these can be joined with it and divided again. -/
theorem notMem_of_numerals {runs : List (List Char)} {numbers : List Nat}
    (h : List.Forall₂ Numeral runs numbers) (hrun : run ∈ runs) (hc : c.isDigit = false) :
    c ∉ run := by
  induction h with
  | nil => cases hrun
  | cons hnumeral _ ih =>
      rcases List.mem_cons.1 hrun with rfl | hmem
      · exact hnumeral.notMem hc
      · exact ih hmem

/-- The number of a run of digits, taken from its first digit on, is the one it
denotes. From here on the function of the library stands for it, which comes
with lemmas. -/
theorem digitsValue_eq (cs : List Char) : digitsValue cs = Nat.ofDigitChars 10 cs 0 := by
  simp [digitsValue, Nat.ofDigitChars, Nat.mul_comm]

/-- Nothing but numerals is read as a number. The empty run is refused by the
reader and by the definition, and it would denote zero. -/
theorem digits?_eq_some_iff : digits? cs = some n ↔ Numeral cs n := by
  unfold digits?
  rw [digitsValue_eq]
  constructor
  · intro h
    split at h
    · rename_i hdigits
      simp only [Bool.and_eq_true, Bool.not_eq_true', List.isEmpty_eq_false_iff,
        List.all_eq_true] at hdigits
      exact ⟨hdigits.1, hdigits.2, Option.some.inj h⟩
    · cases h
  · rintro ⟨hne, hdigits, rfl⟩
    rw [if_pos]
    simpa [hne] using hdigits

/-- Without a plus sign, exactly the numerals of numbers below the limit are
read. The condition is needed because a reader of unsigned numbers skips one
sign in front. -/
theorem unsigned?_eq_some_iff (hplus : '+' ∉ cs) :
    unsigned? limit cs = some n ↔ Numeral cs n ∧ n < limit := by
  unfold unsigned?
  -- A text that begins with a sign is excluded. What is left reads the digits and compares.
  split
  · exact absurd List.mem_cons_self hplus
  · rw [Option.filter_eq_some_iff, digits?_eq_some_iff, decide_eq_true_iff]

/-- Runs without a plus sign are all read as numbers exactly if they are
numerals, each of a number below the limit. The limit is that of the type that
the numbers are kept in. -/
theorem map_unsigned?_eq_iff {runs : List (List Char)} {numbers : List Nat}
    (hplus : ∀ run ∈ runs, '+' ∉ run) :
    runs.map (unsigned? limit) = numbers.map some ↔
      List.Forall₂ Numeral runs numbers ∧ ∀ n ∈ numbers, n < limit := by
  -- Both lists are taken apart together. If one is longer, both sides fail.
  induction runs generalizing numbers with
  | nil => cases numbers <;> simp
  | cons run runs ih =>
      cases numbers with
      | nil => simp
      | cons n numbers =>
          rw [List.map_cons, List.map_cons, List.cons.injEq,
            ih fun other hmem => hplus other (.tail _ hmem),
            unsigned?_eq_some_iff (hplus run (.head _)), List.forall₂_cons, List.forall_mem_cons]
          exact and_and_and_comm

/-! ### The digits of a number -/

/-- A number is written as a numeral of it, the one without zeros in front. -/
theorem numeral_toDigits (n : Nat) : Numeral (Nat.toDigits 10 n) n where
  nonempty := Nat.toDigits_ne_nil
  digits _ hc := Nat.isDigit_of_mem_toDigits (by omega) (by omega) hc
  value := Nat.ofDigitChars_ten_toDigits

/-- What is no digit does not stand among the digits of a number, so a number
that is put into a text adds no separators to it. -/
theorem notMem_toDigits (hc : c.isDigit = false) (n : Nat) : c ∉ Nat.toDigits 10 n :=
  (numeral_toDigits n).notMem hc

/-- The digits of a number below a limit are read as that number, since no
digit is a sign. -/
theorem unsigned?_toDigits (hn : n < limit) : unsigned? limit (Nat.toDigits 10 n) = some n :=
  (unsigned?_eq_some_iff (notMem_toDigits (by decide) n)).2 ⟨numeral_toDigits n, hn⟩

end MultiTarget.Text
