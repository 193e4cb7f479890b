import ClusterLinks.Text.Decimal
import Mathlib.Algebra.Group.Nat.Defs
import Mathlib.Data.List.Induction
import Mathlib.Data.List.TakeWhile

/-!
# Decimal numbers that are written and read

What digits denote is what Lean's own digits of a number denote, so a number is read back from its
digits, and leading zeros make no difference to it.
-/

namespace ClusterLinks.Decimal

/-! ## What digits denote -/

theorem numberOf_eq (digits : List Char) : numberOf digits = Nat.ofDigitChars 10 digits 0 := by
  rw [Nat.ofDigitChars_eq_foldl, numberOf]
  congr 1
  funext number digit
  rw [push, Nat.mul_comm]

/-- A number is what its digits denote. -/
@[simp] theorem numberOf_toDigits (number : Nat) : numberOf (Nat.toDigits 10 number) = number := by
  rw [numberOf_eq, Nat.ofDigitChars_ten_toDigits]

/-- Leading zeros do not count. -/
theorem numberOf_zeros (count : Nat) (digits : List Char) :
    numberOf (List.replicate count '0' ++ digits) = numberOf digits := by
  induction count with
  | zero => rfl
  | succ count ih =>
      rw [List.replicate_succ, List.cons_append, numberOf, List.foldl_cons]
      exact ih

/-- One more digit makes room below the next power of ten. -/
theorem push_lt {number bound : Nat} {digit : Char} (below : number < bound)
    (isDigit : digit.isDigit = true) : push number digit < bound * 10 := by
  simp only [Char.isDigit, ge_iff_le, Bool.and_eq_true, decide_eq_true_eq] at isDigit
  have last : digit.toNat ≤ 57 := isDigit.2
  have zero : '0'.toNat = 48 := rfl
  rw [push]
  omega

/-- Digits denote less than the power of ten that comes next. -/
theorem numberOf_lt {digits : List Char} (areDigits : ∀ digit ∈ digits, digit.isDigit = true) :
    numberOf digits < 10 ^ digits.length := by
  induction digits using List.reverseRecOn with
  | nil => decide
  | append_singleton before digit ih =>
      have earlier := ih fun other member => areDigits other (by simp [member])
      rw [numberOf, List.foldl_append, List.foldl_cons, List.foldl_nil, List.length_append,
        List.length_singleton, Nat.pow_succ]
      exact push_lt earlier (areDigits digit (by simp))

/-! ## Reading digits -/

theorem isDigit_of_readDigits? {text digits rest : List Char}
    (reads : readDigits? text = some (digits, rest)) : ∀ digit ∈ digits, digit.isDigit = true := by
  unfold readDigits? at reads
  split at reads
  · cases reads
  · cases reads
    exact fun _ member => List.mem_takeWhile_imp member

/-- Reading stops at the first mark that is no digit. -/
theorem readDigits?_append {digits : List Char} (notEmpty : digits ≠ [])
    (areDigits : ∀ digit ∈ digits, digit.isDigit = true) {mark : Char}
    (notDigit : mark.isDigit = false) (rest : List Char) :
    readDigits? (digits ++ mark :: rest) = some (digits, mark :: rest) := by
  have taken : (digits ++ mark :: rest).takeWhile Char.isDigit = digits := by
    rw [List.takeWhile_append_of_pos areDigits, List.takeWhile_cons_of_neg (by simp [notDigit]),
      List.append_nil]
  have dropped : (digits ++ mark :: rest).dropWhile Char.isDigit = mark :: rest := by
    rw [List.dropWhile_append_of_pos areDigits, List.dropWhile_cons_of_neg (by simp [notDigit])]
  cases digits with
  | nil => exact absurd rfl notEmpty
  | cons first more => simp only [readDigits?, taken, dropped]

/-! ## Whole texts -/

/-- The number that a text of digits denotes, however large it is. -/
def natural? (text : String) : Option Nat :=
  ofDigits? text.toList

/-- A number is read back from its digits. -/
theorem natural?_toString (number : Nat) : natural? (toString number) = some number := by
  have digits : (toString number).toList = Nat.toDigits 10 number := Nat.toList_repr
  have areDigits : ∀ digit ∈ Nat.toDigits 10 number, digit.isDigit = true :=
    fun digit member => Nat.isDigit_of_mem_toDigits (by decide) (by decide) member
  rw [natural?, digits, ofDigits?,
    if_pos ⟨Nat.toDigits_ne_nil, List.all_eq_true.mpr areDigits⟩, numberOf_toDigits]

/-- A sign is no digit, so a number that is not too large is read the same with a limit. -/
theorem unsigned?_of_natural? {text : String} {number limit : Nat}
    (denotes : natural? text = some number) (fits : number ≤ limit) :
    unsigned? limit text = some number := by
  unfold unsigned?
  split
  · next rest signed =>
      rw [natural?, signed] at denotes
      cases denotes
  · change (natural? text).filter (· ≤ limit) = some number
    simp [denotes, fits]

end ClusterLinks.Decimal
