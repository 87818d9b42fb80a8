import Mathlib.Data.List.Basic
import SplitPlanning.Text.DecimalDigit

/-! # Numbers in decimal digits -/

namespace SplitPlanning.Text

/-- The run of the ASCII digits is the first one that is looked at. -/
theorem digitValue?_of_isDigit {c : Char} (h : c.isDigit = true) :
    digitValue? c = some (c.toNat - 48) := by
  obtain ⟨hfirst, hlast⟩ : 48 ≤ c.toNat ∧ c.toNat ≤ 48 + 9 := Char.isDigit_iff_toNat.mp h
  have hfound : digitZeros.find? (fun first ↦ first ≤ c.toNat && c.toNat ≤ first + 9) =
      some 48 :=
    List.find?_cons_of_pos (by simp [hfirst, hlast])
  rw [digitValue?, hfound, Option.map_some]

theorem isDecimalDigit_of_isDigit {c : Char} (h : c.isDigit = true) : isDecimalDigit c = true := by
  rw [isDecimalDigit, digitValue?_of_isDigit h, Option.isSome_some]

theorem isDecimalDigit_of_mem_toDigits {n : Nat} {c : Char} (h : c ∈ Nat.toDigits 10 n) :
    isDecimalDigit c = true :=
  isDecimalDigit_of_isDigit (Nat.isDigit_of_mem_toDigits (by decide) (by decide) h)

def digitCount (text : String) : Nat :=
  text.toList.countP isDecimalDigit

/-- The value of a printed number is the number. -/
theorem numeralValue_toDigits (n : Nat) : numeralValue (Nat.toDigits 10 n) = n := by
  calc
    numeralValue (Nat.toDigits 10 n) = Nat.ofDigitChars 10 (Nat.toDigits 10 n) 0 := by
      rw [Nat.ofDigitChars_eq_foldl]
      apply List.foldl_ext
      intro value c hc
      have hdigit := Nat.isDigit_of_mem_toDigits (by decide) (by decide) hc
      rw [digitValue?_of_isDigit hdigit]
      rfl
    _ = n := Nat.ofDigitChars_ten_toDigits

end SplitPlanning.Text
