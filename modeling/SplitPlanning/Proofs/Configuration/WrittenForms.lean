import SplitPlanning.Proofs.ByteSize.RoundTrip
import SplitPlanning.Proofs.Configuration.Sizes

/-! # One size in several forms -/

namespace SplitPlanning

namespace Value

theorem toByteSize_integer (amount : ByteSize) :
    (integer amount.bytes).toByteSize = .ok amount :=
  (MeansSize.integer amount.bytes).toByteSize_eq

/-- A text that is read as a size as far as sizes go means this size as far. -/
theorem toByteSize_text_of_parse {s : String} {amount : ByteSize}
    (hread : ByteSize.parse s =
      if amount ≤ ByteSize.max then .ok amount else .error (.ofLarge s)) :
    (text s).toByteSize =
      if amount ≤ ByteSize.max then .ok amount else .error (.unreadable (.ofLarge s)) := by
  by_cases hfits : amount ≤ ByteSize.max
  · rw [if_pos hfits] at hread ⊢
    exact (MeansSize.text hread).toByteSize_eq
  · rw [if_neg hfits] at hread ⊢
    exact (RefusedAsSize.unreadable hread).toByteSize_eq

theorem toByteSize_text_toString (amount : ByteSize) :
    (text (toString (amount.bytes : Int))).toByteSize =
      if amount ≤ ByteSize.max then .ok amount
      else .error (.unreadable (.ofLarge (toString (amount.bytes : Int)))) :=
  toByteSize_text_of_parse (ByteSize.parse_toString amount)

theorem toByteSize_integer_of_neg {n : Int} (h : n < 0) :
    (integer n).toByteSize = .error (.negative ⟨n⟩) :=
  (RefusedAsSize.negative h).toByteSize_eq

theorem toByteSize_text_toString_of_neg {n : Int} (h : n < 0) :
    (text (toString n)).toByteSize = .error (.unreadable (.malformed (toString n))) :=
  (RefusedAsSize.unreadable (ByteSize.parse_toString_of_neg h)).toByteSize_eq

end Value

namespace Configuration

/-- What is given for a size is read in place of whatever was given before. -/
theorem read_insert_of_type_eq_size (c : Configuration) {s : Setting} (hs : s.type = .size)
    {given : Value} (hgiven : given ≠ .null) (fallback : Option Value) :
    Configuration.read (c.insert s.key given) s fallback = given.toByteSize.map .size :=
  read_of_type_eq_size hs (c.get?_insert_self s.key given) hgiven fallback

/-- **The forms of a size agree as far as texts reach.** A negative number is refused in every form.
Any other number is read as so many bytes, but as a text only if it fits into 64 bits. -/
theorem read_forms_of_size (c : Configuration) (s : Setting) (hs : s.type = .size)
    (fallback : Option Value) (n : Int) :
    let outcome (given : Value) := Configuration.read (c.insert s.key given) s fallback
    (n < 0 → outcome (.integer n) = .error (.negative ⟨n⟩) ∧
      outcome (.text (toString n)) = .error (.unreadable (.malformed (toString n)))) ∧
    ∀ amount : ByteSize, n = amount.bytes →
      outcome (.integer n) = .ok (.size amount) ∧
      outcome (.size amount) = .ok (.size amount) ∧
      outcome (.text (toString n)) =
        if amount ≤ ByteSize.max then .ok (.size amount)
        else .error (.unreadable (.ofLarge (toString n))) := by
  intro outcome
  have houtcome : ∀ given, given ≠ .null → outcome given = given.toByteSize.map .size :=
    fun _ hgiven ↦ c.read_insert_of_type_eq_size hs hgiven fallback
  have hinteger := houtcome (.integer n) Value.noConfusion
  have htext := houtcome (.text (toString n)) Value.noConfusion
  constructor
  · intro hneg
    rw [hinteger, htext, Value.toByteSize_integer_of_neg hneg,
      Value.toByteSize_text_toString_of_neg hneg]
    exact ⟨rfl, rfl⟩
  · rintro amount rfl
    have hsize := houtcome (.size amount) Value.noConfusion
    refine ⟨?_, hsize, ?_⟩
    · rw [hinteger, Value.toByteSize_integer]
      rfl
    · rw [htext, Value.toByteSize_text_toString]
      split <;> rfl

/-- The largest number that a text may denote, and a number below nothing. -/
theorem read_forms_of_size_at_limits :
    let outcome (given : Value) :=
      Configuration.read (Dictionary.insert ∅ "split.max-size" given) .maxSplitSize none
    Setting.maxSplitSize.type = .size ∧
      outcome (.integer 9223372036854775807) = .ok (.size .max) ∧
      outcome (.size .max) = .ok (.size .max) ∧
      outcome (.text "9223372036854775807") = .ok (.size .max) ∧
      outcome (.integer (-1)) = .error (.negative ⟨-1⟩) ∧
      outcome (.text "-1") = .error (.unreadable (.malformed "-1")) := by
  intro outcome
  have hlargest := (read_forms_of_size ∅ .maxSplitSize rfl none 9223372036854775807).2 .max rfl
  have hnegative := (read_forms_of_size ∅ .maxSplitSize rfl none (-1)).1 (by decide)
  exact ⟨rfl, hlargest.1, hlargest.2.1, hlargest.2.2, hnegative⟩

/-- The forms of the next number differ. -/
theorem read_forms_of_size_differ :
    let outcome (given : Value) :=
      Configuration.read (Dictionary.insert ∅ "split.max-size" given) .maxSplitSize none
    outcome (.integer 9223372036854775808) = .ok (.size ⟨9223372036854775808⟩) ∧
      outcome (.size ⟨9223372036854775808⟩) = .ok (.size ⟨9223372036854775808⟩) ∧
      ∃ cause, outcome (.text "9223372036854775808") = .error cause :=
  ⟨rfl, rfl, _, rfl⟩

end Configuration

end SplitPlanning
