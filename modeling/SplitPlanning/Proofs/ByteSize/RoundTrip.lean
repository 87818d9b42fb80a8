import SplitPlanning.Proofs.ByteSize.Grammar
import SplitPlanning.Proofs.Text.Numeral

/-!
# Sizes printed and read again

A size is shown as a number of units that divide it, and reading multiplies the number by the same
unit.
-/

namespace SplitPlanning

open Text

/-! ## Labels of units -/

namespace ByteUnit

end ByteUnit

/-! ## Digits of texts -/

theorem Spells.digitCount_eq {text : String} {written : WrittenSize}
    (h : Spells text.toList written) : digitCount text = written.digits.length := by
  obtain ⟨before, between, after, hbefore, hbetween, hafter, htext⟩ := h.exists_blanks
  have hnone : ∀ {s : List Char}, (∀ c ∈ s, isBlank c = true) →
      s.countP Text.isDecimalDigit = 0 := by
    intro s hs
    apply List.countP_eq_zero.mpr
    intro c hc
    simp [isDecimalDigit_eq_false_of_isBlank (hs c hc)]
  have hletters : written.letters.countP Text.isDecimalDigit = 0 := by
    apply List.countP_eq_zero.mpr
    intro c hc
    simp [isDecimalDigit_eq_false_of_isAlpha (h.isAlpha c hc)]
  have hdigits : written.digits.countP Text.isDecimalDigit = written.digits.length :=
    List.countP_eq_length.mpr h.isDecimalDigit
  simp only [digitCount, htext, List.countP_append, hnone hbefore, hnone hbetween, hnone hafter,
    hletters, hdigits, Nat.zero_add, Nat.add_zero]

/-- Why a text is refused that was printed for a size which does not fit into 64 bits. -/
def SizeError.ofLarge (text : String) : SizeError :=
  if digitCount text ≤ maxDigits then .overflow text else .tooManyDigits (digitCount text)

namespace ByteSize

theorem length_toDigits_le_maxDigits {n : Nat} (h : n ≤ maxBytes) :
    (Nat.toDigits 10 n).length ≤ maxDigits := by
  have hlt : n < 10 ^ 19 := Nat.lt_of_le_of_lt h (by decide)
  have hlength := (Nat.length_toDigits_le_iff (by decide) (by decide)).mpr hlt
  exact Nat.le_trans hlength (by decide)

/-- A text is read as the size whose number of units is printed in it, as far as sizes go. -/
theorem parse_of_spells_toDigits {text : String} {count : Nat} {letters : List Char}
    {unit : ByteUnit} {size : ByteSize} (h : Spells text.toList ⟨Nat.toDigits 10 count, letters⟩)
    (hunit : Names letters unit) (hbytes : count * unit.multiplier = size.bytes) :
    parse text = if size ≤ max then .ok size else .error (.ofLarge text) := by
  have hread := parse_of_names h hunit
  have hcount : digitCount text = (Nat.toDigits 10 count).length := h.digitCount_eq
  rw [numeralValue_toDigits, hbytes] at hread
  by_cases hfits : size ≤ max
  · have hle : size.bytes ≤ maxBytes := hfits
    have hcountLe : count ≤ maxBytes :=
      calc
        count ≤ count * unit.multiplier := Nat.le_mul_of_pos_right count unit.multiplier_pos
        _ = size.bytes := hbytes
        _ ≤ maxBytes := hle
    have hshort := length_toDigits_le_maxDigits hcountLe
    rw [hread, if_neg (Nat.not_lt.mpr hshort), if_neg (Nat.not_lt.mpr hle), if_pos hfits]
  · have hover : maxBytes < size.bytes := Nat.not_le.mp hfits
    rw [hread, if_neg hfits, SizeError.ofLarge, hcount, if_pos hover]
    by_cases hshort : (Nat.toDigits 10 count).length ≤ maxDigits
    · rw [if_neg (Nat.not_lt.mpr hshort), if_pos hshort]
    · rw [if_pos (Nat.not_le.mp hshort), if_neg hshort]

/-! ## Texts of sizes -/

/-- The smallest size that does not fit into 64 bits. -/
example : parse (text ⟨maxBytes + 1⟩) = .error (.overflow "8388608 tb") := by decide +kernel

/-! ## Numbers of bytes -/

theorem spells_toString (n : Nat) : Spells (toString n).toList ⟨Nat.toDigits 10 n, []⟩ where
  digits_ne_nil := Nat.toDigits_ne_nil
  isDecimalDigit _ := isDecimalDigit_of_mem_toDigits
  isAlpha := List.forall_mem_nil _
  exists_blanks := ⟨[], [], [], by simp⟩

/-- A printed number is read as so many bytes if it fits. -/
theorem parse_toString (size : ByteSize) :
    parse (toString size.bytes) =
      if size ≤ max then .ok size else .error (.ofLarge (toString size.bytes)) :=
  parse_of_spells_toDigits (spells_toString size.bytes) (.inl ⟨rfl, rfl⟩) (Nat.mul_one size.bytes)

/-- A sign is no part of a size. -/
theorem parse_toString_of_neg {n : Int} (h : n < 0) :
    parse (toString n) = .error (.malformed (toString n)) := by
  obtain ⟨m, rfl⟩ := Int.eq_negSucc_of_lt_zero h
  have hsign : (toString (Int.negSucc m)).toList = '-' :: (toString (m + 1)).toList :=
    String.toList_append
  have hnone : WrittenSize.ofChars? (trim (toString (Int.negSucc m)).toList) = none := by
    apply ofChars?_trim_eq_none
    intro written hspells
    rw [hsign] at hspells
    have hhead := hspells.isBlank_or_isDecimalDigit_of_head? '-' rfl
    revert hhead
    decide
  have hne : trim (toString (Int.negSucc m)).toList ≠ [] := by
    rw [ne_eq, trim_eq_nil_iff, hsign]
    intro hblank
    have hfirst := hblank '-' List.mem_cons_self
    revert hfirst
    decide
  unfold parse
  simp only [if_neg hne, hnone]

end ByteSize

end SplitPlanning
