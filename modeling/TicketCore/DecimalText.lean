import Mathlib.Data.List.Basic
import Mathlib.Data.Int.Basic

/-!
# Integers as decimal text

Reading back the integers that a program wrote into a text, alone or as fields between
separators.

* `readInt` reads an optional sign and decimal digits, and nothing else; `readInt_toString` is the
  round trip.
* `toString_injective`: two integers with one text are equal.
* `split_pair`: a text `a:b` whose first field has no separator splits into its two fields.
* `field_cancel`: a field ends at the first separator, whatever comes after it.

Nothing here mentions a particular format.
-/

namespace DecimalText

/-- A non-empty row of decimal digits, as a number. -/
def readNat (digits : List Char) : Option Nat :=
  if digits ≠ [] ∧ digits.all Char.isDigit then some (Nat.ofDigitChars 10 digits 0) else none

/-- An optional sign and decimal digits, as an integer. -/
def readInt : List Char → Option Int
  | '-' :: digits => (readNat digits).map fun n => -(n : Int)
  | '+' :: digits => (readNat digits).map fun n => (n : Int)
  | digits => (readNat digits).map fun n => (n : Int)

/-- The text of a natural number consists of digits. -/
theorem toString_nat_digits (n : Nat) : ∀ c ∈ (toString n).toList, c.isDigit := by
  intro c mem
  rw [Nat.toString_eq_repr, Nat.toList_repr] at mem
  exact Nat.isDigit_of_mem_toDigits (by decide) (by decide) mem

theorem readNat_toString (n : Nat) : readNat (toString n).toList = some n := by
  have digits : (toString n).toList.all Char.isDigit :=
    List.all_eq_true.mpr (toString_nat_digits n)
  have ne_nil : (toString n).toList ≠ [] := by
    rw [Nat.toString_eq_repr, Nat.toList_repr]
    exact Nat.toDigits_ne_nil
  unfold readNat
  rw [if_pos ⟨ne_nil, digits⟩, Nat.toString_eq_repr, Nat.toList_repr,
    Nat.ofDigitChars_ten_toDigits]

theorem toString_negSucc (n : Nat) : toString (Int.negSucc n) = "-" ++ toString (n + 1) := rfl

/-- A text that begins with a digit has no sign. -/
theorem readInt_of_digits {digits : List Char} (all : ∀ c ∈ digits, c.isDigit) :
    readInt digits = (readNat digits).map fun n => (n : Int) := by
  unfold readInt
  split
  · exact absurd (all '-' (List.mem_cons_self ..)) (by decide)
  · exact absurd (all '+' (List.mem_cons_self ..)) (by decide)
  · rfl

/-- **Round trip.** -/
theorem readInt_toString (n : Int) : readInt (toString n).toList = some n := by
  cases n with
  | ofNat n =>
      show readInt (toString n).toList = _
      rw [readInt_of_digits (toString_nat_digits n), readNat_toString]
      rfl
  | negSucc n =>
      have minus : "-".toList = ['-'] := rfl
      rw [toString_negSucc, String.toList_append, minus, List.singleton_append, readInt,
        readNat_toString]
      rfl

theorem toString_injective : Function.Injective (toString : Int → String) := by
  intro a b same
  have read : some a = some b := by rw [← readInt_toString a, same, readInt_toString b]
  exact Option.some.inj read

/-- An integer's text has no separator in it. -/
theorem not_mem_toString (n : Int) {separator : Char} (notDigit : separator.isDigit = false)
    (notMinus : separator ≠ '-') : separator ∉ (toString n).toList := by
  intro mem
  cases n with
  | ofNat n =>
      have digit := toString_nat_digits n separator mem
      rw [notDigit] at digit
      cases digit
  | negSucc n =>
      rw [toString_negSucc, String.toList_append] at mem
      rcases List.mem_append.mp mem with minus | mem
      · exact notMinus (List.mem_singleton.mp minus)
      · have digit := toString_nat_digits (n + 1) separator mem
        rw [notDigit] at digit
        cases digit

/-- Two fields around one separator. -/
theorem split_pair {separator : Char} {first second : List Char} (absent : separator ∉ first)
    (absent' : separator ∉ second) :
    (first ++ separator :: second).splitOn separator = [first, second] := by
  rw [List.splitOn_append_cons_self_of_not_mem absent, List.splitOn_eq_singleton absent']

/-- A field ends at the first separator. -/
theorem field_cancel {separator : Char} {first first' rest rest' : List Char}
    (absent : separator ∉ first) (absent' : separator ∉ first')
    (same : first ++ separator :: rest = first' ++ separator :: rest') :
    first = first' ∧ rest = rest' := by
  induction first generalizing first' with
  | nil =>
      cases first' with
      | nil => exact ⟨rfl, (List.cons.inj same).2⟩
      | cons c first' =>
          rw [(List.cons.inj same).1] at absent'
          exact (absent' (List.mem_cons_self ..)).elim
  | cons c first ih =>
      cases first' with
      | nil =>
          rw [← (List.cons.inj same).1] at absent
          exact (absent (List.mem_cons_self ..)).elim
      | cons c' first' =>
          obtain ⟨heads, tails⟩ := List.cons.inj same
          obtain ⟨firsts, rests⟩ := ih (List.not_mem_of_not_mem_cons absent)
            (List.not_mem_of_not_mem_cons absent') tails
          rw [heads, firsts]
          exact ⟨rfl, rests⟩

end DecimalText
