import Mathlib.Data.List.Basic
import SplitPlanning.ByteSize.Parser
import SplitPlanning.Proofs.Outcome
import SplitPlanning.Proofs.Text.Classes
import SplitPlanning.Proofs.Text.LowerCase

/-!
# The grammar of sizes

Which texts denote a size, said without reading them. Reading accepts these texts and no others; a
text that is laid out as one but names no unit is refused for its unit, whatever its number is.
-/

namespace SplitPlanning

open Text

/-! ## Taking texts apart -/

section Written

variable {digits blanks letters : List Char} (hdigits : ∀ c ∈ digits, isDecimalDigit c = true)
  (hblanks : ∀ c ∈ blanks, isBlank c = true) (hletters : ∀ c ∈ letters, c.isAlpha = true)

include hdigits hblanks hletters

/-- Digits, blanks and letters one behind the other are taken apart again. -/
theorem WrittenSize.ofChars?_append (hne : digits ≠ []) :
    WrittenSize.ofChars? (digits ++ (blanks ++ letters)) = some ⟨digits, letters⟩ := by
  have hbehind : ∀ c ∈ (blanks ++ letters).head?, isDecimalDigit c = false := by
    intro c hc
    rcases List.mem_append.mp (List.mem_of_mem_head? hc) with hblank | hletter
    · exact isDecimalDigit_eq_false_of_isBlank (hblanks c hblank)
    · exact isDecimalDigit_eq_false_of_isAlpha (hletters c hletter)
  have hname : ∀ c ∈ letters.head?, isBlank c = false := by
    intro c hc
    exact isBlank_eq_false_of_isAlpha (hletters c (List.mem_of_mem_head? hc))
  have hall : letters.all Char.isAlpha = true := List.all_eq_true.mpr hletters
  unfold WrittenSize.ofChars?
  rw [takeWhile_append_of_head hdigits hbehind, dropWhile_append_of_head hdigits hbehind,
    dropWhile_append_of_head hblanks hname]
  simp [hne, hall]

end Written

/-! ## Digits and letters between blanks -/

/-- Whether a text spells a written size: blanks, its digits, blanks, its letters and blanks, where
only digits must not be missing. -/
structure Spells (text : List Char) (written : WrittenSize) : Prop where
  digits_ne_nil : written.digits ≠ []
  isDecimalDigit : ∀ c ∈ written.digits, isDecimalDigit c = true
  isAlpha : ∀ c ∈ written.letters, c.isAlpha = true
  exists_blanks : ∃ before between after,
    (∀ c ∈ before, isBlank c = true) ∧ (∀ c ∈ between, isBlank c = true) ∧
      (∀ c ∈ after, isBlank c = true) ∧
      text = before ++ (written.digits ++ (between ++ (written.letters ++ after)))

variable {written : WrittenSize}

namespace Spells

variable {text : List Char}

/-- The digits come first, whatever follows them. -/
theorem isBlank_of_head? (h : Spells text written) (rest : List Char) :
    ∀ c ∈ (written.digits ++ rest).head?, isBlank c = false := by
  intro c hc
  rw [List.head?_append_of_ne_nil _ h.digits_ne_nil] at hc
  exact isBlank_eq_false_of_isDecimalDigit (h.isDecimalDigit c (List.mem_of_mem_head? hc))

/-- Where there are no letters, the blanks behind the digits are outer ones. -/
theorem trim_of_letters_eq_nil (h : Spells text written) (hletters : written.letters = []) :
    trim text = written.digits := by
  obtain ⟨before, between, after, hbefore, hbetween, hafter, htext⟩ := h.exists_blanks
  have hbehind : ∀ c ∈ between ++ after, isBlank c = true :=
    fun c hc ↦ (List.mem_append.mp hc).elim (hbetween c) (hafter c)
  have hfirst := h.isBlank_of_head? []
  rw [List.append_nil] at hfirst
  have hlast : ∀ c ∈ written.digits.getLast?, isBlank c = false :=
    fun c hc ↦ isBlank_eq_false_of_isDecimalDigit (h.isDecimalDigit c (List.mem_of_getLast? hc))
  calc
    trim text = trim (before ++ (written.digits ++ (between ++ after))) := by
      rw [htext, hletters, List.nil_append]
    _ = trim written.digits := trim_append hbefore hbehind h.digits_ne_nil hfirst
    _ = written.digits := trim_eq_self hfirst hlast

/-- Where there are letters, they come last and keep the blanks in front of them. -/
theorem exists_trim_of_letters_ne_nil (h : Spells text written) (hletters : written.letters ≠ []) :
    ∃ blanks, (∀ c ∈ blanks, isBlank c = true) ∧
      trim text = written.digits ++ (blanks ++ written.letters) := by
  obtain ⟨before, between, after, hbefore, hbetween, hafter, htext⟩ := h.exists_blanks
  have hne : written.digits ++ (between ++ written.letters) ≠ [] :=
    List.append_ne_nil_of_left_ne_nil h.digits_ne_nil _
  have hfirst := h.isBlank_of_head? (between ++ written.letters)
  have hlast : ∀ c ∈ (written.digits ++ (between ++ written.letters)).getLast?,
      isBlank c = false := by
    intro c hc
    rw [← List.append_assoc, List.getLast?_append_of_ne_nil _ hletters] at hc
    exact isBlank_eq_false_of_isAlpha (h.isAlpha c (List.mem_of_getLast? hc))
  refine ⟨between, hbetween, ?_⟩
  calc
    trim text = trim (before ++ ((written.digits ++ (between ++ written.letters)) ++ after)) := by
      simp only [htext, List.append_assoc]
    _ = trim (written.digits ++ (between ++ written.letters)) :=
      trim_append hbefore hafter hne hfirst
    _ = written.digits ++ (between ++ written.letters) := trim_eq_self hfirst hlast

theorem isBlank_or_isDecimalDigit_of_head? (h : Spells text written) :
    ∀ c ∈ text.head?, isBlank c = true ∨ Text.isDecimalDigit c = true := by
  obtain ⟨before, _, _, hbefore, -, -, rfl⟩ := h.exists_blanks
  intro c hc
  by_cases hnil : before = []
  · rw [hnil, List.nil_append, List.head?_append_of_ne_nil _ h.digits_ne_nil] at hc
    exact .inr (h.isDecimalDigit c (List.mem_of_mem_head? hc))
  · rw [List.head?_append_of_ne_nil _ hnil] at hc
    exact .inl (hbefore c (List.mem_of_mem_head? hc))

theorem exists_trim_eq (h : Spells text written) :
    ∃ blanks, (∀ c ∈ blanks, isBlank c = true) ∧
      trim text = written.digits ++ (blanks ++ written.letters) := by
  by_cases hletters : written.letters = []
  · refine ⟨[], by simp, ?_⟩
    rw [h.trim_of_letters_eq_nil hletters, hletters, List.append_nil, List.append_nil]
  · exact h.exists_trim_of_letters_ne_nil hletters

theorem trim_ne_nil (h : Spells text written) : trim text ≠ [] := by
  obtain ⟨blanks, -, htrim⟩ := h.exists_trim_eq
  rw [htrim]
  exact List.append_ne_nil_of_left_ne_nil h.digits_ne_nil _

end Spells

/-- What is taken apart puts together the text again. -/
theorem WrittenSize.exists_of_ofChars? {s : List Char} (h : ofChars? s = some written) :
    written.digits ≠ [] ∧ (∀ c ∈ written.digits, isDecimalDigit c = true) ∧
      (∀ c ∈ written.letters, c.isAlpha = true) ∧
      ∃ blanks, (∀ c ∈ blanks, isBlank c = true) ∧
        s = written.digits ++ (blanks ++ written.letters) := by
  simp only [ofChars?] at h
  split at h
  case isTrue => contradiction
  case isFalse hsound =>
    obtain ⟨hne, hall⟩ := not_or.mp hsound
    obtain rfl := Option.some.inj h
    refine ⟨hne, List.all_eq_true.mp List.all_takeWhile,
      List.all_eq_true.mp (Bool.not_eq_false _ ▸ hall),
      (s.dropWhile Text.isDecimalDigit).takeWhile isBlank,
      List.all_eq_true.mp List.all_takeWhile, ?_⟩
    rw [List.takeWhile_append_dropWhile, List.takeWhile_append_dropWhile]

/-- Reading finds the written size that a text spells, and there is none in any other text. -/
theorem ofChars?_trim_eq_some_iff {text : List Char} :
    WrittenSize.ofChars? (trim text) = some written ↔ Spells text written := by
  constructor
  · intro h
    obtain ⟨hne, hdigits, hletters, blanks, hblanks, htrim⟩ := WrittenSize.exists_of_ofChars? h
    obtain ⟨before, after, hbefore, hafter, htext⟩ := exists_eq_append_trim text
    refine ⟨hne, hdigits, hletters, before, blanks, after, hbefore, hblanks, hafter, ?_⟩
    rw [htrim] at htext
    simpa only [List.append_assoc] using htext
  · intro h
    obtain ⟨blanks, hblanks, htrim⟩ := h.exists_trim_eq
    rw [htrim]
    exact WrittenSize.ofChars?_append h.isDecimalDigit hblanks h.isAlpha h.digits_ne_nil

/-! ## Letters of units -/

/-- Whether letters name a unit: they are one of its names but for their case, or there are none
and the unit is a byte. -/
def Names (letters : List Char) (unit : ByteUnit) : Prop :=
  letters = [] ∧ unit = .bytes ∨ String.ofList (letters.map Char.toLower) ∈ unit.names

namespace ByteUnit

variable {letters : List Char} (hletters : ∀ c ∈ letters, c.isAlpha = true)

include hletters

/-- Letters hold no blank and are in ASCII, so they are looked up in lower case as they are. -/
theorem lower_trim_of_isAlpha : lower (trim letters) = letters.map Char.toLower := by
  have hblank : ∀ c ∈ letters, isBlank c = false :=
    fun c hc ↦ isBlank_eq_false_of_isAlpha (hletters c hc)
  rw [trim_eq_self (fun c hc ↦ hblank c (List.mem_of_mem_head? hc))
    (fun c hc ↦ hblank c (List.mem_of_getLast? hc))]
  exact lower_of_ascii fun c hc ↦ toNat_lt_of_isAlpha (hletters c hc)

theorem parse_of_names {unit : ByteUnit} (h : Names letters unit) :
    ByteUnit.parse (String.ofList letters) = .ok unit := by
  rcases h with ⟨rfl, rfl⟩ | hname
  · rfl
  · have hne : String.ofList (letters.map Char.toLower) ≠ "" := by
      intro hempty
      rw [hempty] at hname
      revert hname
      cases unit <;> decide
    unfold ByteUnit.parse
    simp only [String.toList_ofList, lower_trim_of_isAlpha hletters]
    rw [if_neg hne, ofName?_eq_some_iff.mpr hname]

theorem parse_of_not_names (h : ∀ unit, ¬Names letters unit) :
    ByteUnit.parse (String.ofList letters) =
      .error ⟨String.ofList (letters.map Char.toLower)⟩ := by
  have hne : String.ofList (letters.map Char.toLower) ≠ "" := by
    intro hempty
    have hnil : letters = [] := by simpa using hempty
    exact h .bytes (Or.inl ⟨hnil, rfl⟩)
  have hnone : ofName? (String.ofList (letters.map Char.toLower)) = none := by
    apply Option.eq_none_iff_forall_ne_some.mpr
    intro unit hunit
    exact h unit (Or.inr (ofName?_eq_some_iff.mp hunit))
  unfold ByteUnit.parse
  simp only [String.toList_ofList, lower_trim_of_isAlpha hletters]
  rw [if_neg hne, hnone]

end ByteUnit

/-! ## Texts of sizes -/

namespace ByteSize

variable {text : String}

/-- Whether a text denotes a size: it spells a number and the name of a unit whose product is the
size, the number has no more digits than are read, and the size fits into 64 bits. -/
def Denotes (text : String) (size : ByteSize) : Prop :=
  ∃ written unit, Spells text.toList written ∧ Names written.letters unit ∧
    written.digits.length ≤ maxDigits ∧
    numeralValue written.digits * unit.multiplier = size.bytes ∧ size ≤ max

theorem parse_of_names (h : Spells text.toList written) {unit : ByteUnit}
    (hunit : Names written.letters unit) :
    parse text =
      if maxDigits < written.digits.length then .error (.tooManyDigits written.digits.length)
      else if maxBytes < numeralValue written.digits * unit.multiplier then
        .error (.overflow text)
      else .ok ⟨numeralValue written.digits * unit.multiplier⟩ := by
  have hwritten := ofChars?_trim_eq_some_iff.mpr h
  unfold parse
  simp only [if_neg h.trim_ne_nil, hwritten, ByteUnit.parse_of_names h.isAlpha hunit]

/-- The unit is looked up before the number is. -/
theorem parse_of_not_names (h : Spells text.toList written)
    (hunit : ∀ unit, ¬Names written.letters unit) :
    parse text =
      .error (.unknownUnit ⟨String.ofList (written.letters.map Char.toLower)⟩) := by
  have hwritten := ofChars?_trim_eq_some_iff.mpr h
  unfold parse
  simp only [if_neg h.trim_ne_nil, hwritten, ByteUnit.parse_of_not_names h.isAlpha hunit]

theorem ofChars?_trim_eq_none (h : ∀ written, ¬Spells text.toList written) :
    WrittenSize.ofChars? (trim text.toList) = none := by
  apply Option.eq_none_iff_forall_ne_some.mpr
  intro written hwritten
  exact h written (ofChars?_trim_eq_some_iff.mp hwritten)

theorem parse_of_not_spells (h : ∀ written, ¬Spells text.toList written) :
    parse text = .error .blank ∨ parse text = .error (.malformed text) := by
  have hnone := ofChars?_trim_eq_none h
  unfold parse
  by_cases hnil : trim text.toList = []
  · exact Or.inl (if_pos hnil)
  · simp only [if_neg hnil, hnone]
    exact Or.inr trivial

/-- The three kinds of text: a number of units, a number of something else, and no number. -/
theorem spells_cases (text : String) :
    (∃ written unit, Spells text.toList written ∧ Names written.letters unit) ∨
      (∃ written, Spells text.toList written ∧ ∀ unit, ¬Names written.letters unit) ∨
      ∀ written, ¬Spells text.toList written := by
  by_cases hspells : ∃ written, Spells text.toList written
  · obtain ⟨written, h⟩ := hspells
    by_cases hnames : ∃ unit, Names written.letters unit
    · obtain ⟨unit, hunit⟩ := hnames
      exact Or.inl ⟨written, unit, h, hunit⟩
    · exact Or.inr (Or.inl ⟨written, h, not_exists.mp hnames⟩)
  · exact Or.inr (Or.inr (not_exists.mp hspells))

theorem parse_eq_ok_iff {size : ByteSize} : parse text = .ok size ↔ Denotes text size := by
  constructor
  · intro h
    rcases spells_cases text with
      ⟨written, unit, hspells, hunit⟩ | ⟨written, hspells, hunit⟩ | hnone
    · rw [parse_of_names hspells hunit] at h
      split at h
      case isTrue => contradiction
      case isFalse hshort =>
        split at h
        case isTrue => contradiction
        case isFalse hfits =>
          obtain rfl := Except.ok.inj h
          exact ⟨written, unit, hspells, hunit, Nat.not_lt.mp hshort, rfl, Nat.not_lt.mp hfits⟩
    · rw [parse_of_not_names hspells hunit] at h
      contradiction
    · rcases parse_of_not_spells hnone with hblank | hmalformed
      · rw [hblank] at h
        contradiction
      · rw [hmalformed] at h
        contradiction
  · rintro ⟨written, unit, hspells, hunit, hshort, hbytes, hfits⟩
    rw [parse_of_names hspells hunit, hbytes, if_neg (Nat.not_lt.mpr hshort)]
    exact if_neg (Nat.not_lt.mpr hfits)

theorem parse_eq_unknownUnit_iff {unknown : UnknownUnit} :
    parse text = .error (.unknownUnit unknown) ↔
      ∃ written, Spells text.toList written ∧ (∀ unit, ¬Names written.letters unit) ∧
        unknown.name = String.ofList (written.letters.map Char.toLower) := by
  constructor
  · intro h
    rcases spells_cases text with
      ⟨written, unit, hspells, hunit⟩ | ⟨written, hspells, hunit⟩ | hnone
    · rw [parse_of_names hspells hunit] at h
      split at h
      case isTrue => simp at h
      case isFalse => split at h <;> simp at h
    · rw [parse_of_not_names hspells hunit] at h
      refine ⟨written, hspells, hunit, ?_⟩
      rw [← SizeError.unknownUnit.inj (Except.error.inj h)]
    · rcases parse_of_not_spells hnone with hblank | hmalformed
      · simp [hblank] at h
      · simp [hmalformed] at h
  · rintro ⟨written, hspells, hunit, hname⟩
    rw [parse_of_not_names hspells hunit, ← hname]

theorem parse_eq_tooManyDigits_iff {count : Nat} :
    parse text = .error (.tooManyDigits count) ↔
      ∃ written unit, Spells text.toList written ∧ Names written.letters unit ∧
        written.digits.length = count ∧ maxDigits < count := by
  constructor
  · intro h
    rcases spells_cases text with
      ⟨written, unit, hspells, hunit⟩ | ⟨written, hspells, hunit⟩ | hnone
    · rw [parse_of_names hspells hunit] at h
      split at h
      case isTrue hlong =>
        obtain rfl := SizeError.tooManyDigits.inj (Except.error.inj h)
        exact ⟨written, unit, hspells, hunit, rfl, hlong⟩
      case isFalse => split at h <;> simp at h
    · simp [parse_of_not_names hspells hunit] at h
    · rcases parse_of_not_spells hnone with hblank | hmalformed
      · simp [hblank] at h
      · simp [hmalformed] at h
  · rintro ⟨written, unit, hspells, hunit, rfl, hlong⟩
    rw [parse_of_names hspells hunit, if_pos hlong]

/-! ## Reading -/

/-- **Reading follows the grammar.** A text is read as a size exactly if it denotes this size. It is
refused for its unit exactly if no unit has the name behind its number, and for its digits exactly
if it is a number of units with more digits than are read. -/
theorem parseGiven_accepts_grammar (given : Option String) :
    (∀ size, parseGiven given = .ok size ↔ ∃ text ∈ given, Denotes text size) ∧
      ((∃ e, parseGiven given = .error e) ↔ ∀ text ∈ given, ∀ size, ¬Denotes text size) ∧
      (∀ unknown, parseGiven given = .error (.unknownUnit unknown) ↔
        ∃ text ∈ given, ∃ written, Spells text.toList written ∧
          (∀ unit, ¬Names written.letters unit) ∧
          unknown.name = String.ofList (written.letters.map Char.toLower)) ∧
      ∀ count, parseGiven given = .error (.tooManyDigits count) ↔
        ∃ text ∈ given, ∃ written unit, Spells text.toList written ∧
          Names written.letters unit ∧ written.digits.length = count ∧ maxDigits < count := by
  have hdenotes : ∀ size, parseGiven given = .ok size ↔ ∃ text ∈ given, Denotes text size := by
    intro size
    cases given with
    | none => simp [parseGiven]
    | some text => simpa [parseGiven] using parse_eq_ok_iff
  refine ⟨hdenotes, ?_, ?_, ?_⟩
  · rw [exists_eq_error_iff]
    constructor
    · intro hnone text htext size hsize
      exact hnone size ((hdenotes size).mpr ⟨text, htext, hsize⟩)
    · intro hnone size hsize
      obtain ⟨text, htext, hdenoted⟩ := (hdenotes size).mp hsize
      exact hnone text htext size hdenoted
  · intro unknown
    cases given with
    | none => simp [parseGiven]
    | some text => simpa [parseGiven] using parse_eq_unknownUnit_iff
  · intro count
    cases given with
    | none => simp [parseGiven]
    | some text => simpa [parseGiven] using parse_eq_tooManyDigits_iff

/-- An unknown unit hides that the number is too large. -/
example : parse "99999999999999999999 Xb" = .error (.unknownUnit ⟨"xb"⟩) := by decide +kernel

/-! ## Zeros -/

theorem spells_zeros (n : Nat) :
    Spells (List.replicate (n + 1) '0') ⟨List.replicate (n + 1) '0', []⟩ where
  digits_ne_nil := List.cons_ne_nil _ _
  isDecimalDigit c hc := by
    obtain rfl := List.eq_of_mem_replicate hc
    rfl
  isAlpha := List.forall_mem_nil _
  exists_blanks := ⟨[], [], [], by simp⟩

theorem numeralValue_zeros (n : Nat) : numeralValue (List.replicate n '0') = 0 := by
  induction n with
  | zero => rfl
  | succ n ih => exact ih

/-- Zeros count as digits: nothing at all, written with one zero more than there may be digits, is
laid out as a size of no bytes and still refused. -/
theorem parseGiven_refuses_long_zero :
    let zeros := List.replicate 4301 '0'
    let written : WrittenSize := ⟨zeros, []⟩
    Spells (String.ofList zeros).toList written ∧ Names written.letters .bytes ∧
      numeralValue written.digits * ByteUnit.multiplier .bytes = (⟨0⟩ : ByteSize).bytes ∧
      (⟨0⟩ : ByteSize) ≤ max ∧
      parseGiven (some (String.ofList zeros)) = .error (.tooManyDigits 4301) := by
  intro zeros written
  have hspells : Spells (String.ofList zeros).toList written := by
    rw [String.toList_ofList]
    exact spells_zeros 4300
  have hunit : Names written.letters .bytes := .inl ⟨rfl, rfl⟩
  have hlength : written.digits.length = 4301 := List.length_replicate
  have hrefused : parse (String.ofList zeros) = .error (.tooManyDigits 4301) :=
    parse_eq_tooManyDigits_iff.mpr ⟨written, _, hspells, hunit, hlength, by decide⟩
  refine ⟨hspells, hunit, ?_, by decide, hrefused⟩
  rw [numeralValue_zeros, Nat.zero_mul]

end ByteSize

end SplitPlanning
