import SplitPlanning.Configuration.JobSettings
import SplitPlanning.Proofs.Outcome

/-!
# Sizes in a configuration

A job gives a size as such, as a number that is not negative, or as a text that can be read. Every
other value is refused, and a truth value is no number here.
-/

namespace SplitPlanning

namespace Value

/-! ## Values -/

inductive MeansSize : Value → ByteSize → Prop where
  | size (amount : ByteSize) : MeansSize (.size amount) amount
  | integer (n : Nat) : MeansSize (.integer n) ⟨n⟩
  | text {s : String} {amount : ByteSize} (h : ByteSize.parse s = .ok amount) :
      MeansSize (.text s) amount

inductive RefusedAsSize : Value → ConversionError → Prop where
  | negative {n : Int} (h : n < 0) : RefusedAsSize (.integer n) (.negative ⟨n⟩)
  | unreadable {s : String} {cause : SizeError} (h : ByteSize.parse s = .error cause) :
      RefusedAsSize (.text s) (.unreadable cause)
  | otherType {v : Value} (hsize : ∀ amount, v ≠ .size amount) (hinteger : ∀ n, v ≠ .integer n)
      (htext : ∀ s, v ≠ .text s) : RefusedAsSize v (.notASize v.typeName)

variable {v : Value} {amount : ByteSize} {cause : ConversionError}

theorem MeansSize.toByteSize_eq (h : v.MeansSize amount) : v.toByteSize = .ok amount := by
  cases h with
  | size => rfl
  | integer n => exact mapError_eq_ok (ByteSize.ofInt_natCast n) ConversionError.negative
  | text hread => exact mapError_eq_ok hread ConversionError.unreadable

theorem RefusedAsSize.toByteSize_eq (h : v.RefusedAsSize cause) : v.toByteSize = .error cause := by
  cases h with
  | negative hlt => exact mapError_eq_error (ByteSize.ofInt_of_neg hlt) ConversionError.negative
  | unreadable hread => exact mapError_eq_error hread ConversionError.unreadable
  | otherType hsize hinteger htext =>
    cases v with
    | size amount => exact absurd rfl (hsize amount)
    | integer n => exact absurd rfl (hinteger n)
    | text s => exact absurd rfl (htext s)
    | null | truth | real | bytes | list | map => rfl

end Value

/-! ## Settings -/

namespace Configuration

variable {c : Configuration} {s : Setting} {v : Value}

theorem given?_of_ne_null (h : c.get? s.key = some v) (hv : v ≠ .null) : c.given? s = some v := by
  unfold given?
  rw [h]
  cases v with
  | null => exact absurd rfl hv
  | truth | integer | text | real | bytes | size | list | map => rfl

/-- What is given for a setting is converted, whatever else the reader would fall back to. -/
theorem read_of_get?_eq_some (h : c.get? s.key = some v) (hv : v ≠ .null)
    (fallback : Option Value) : c.read s fallback = v.convert s.type := by
  unfold read
  rw [given?_of_ne_null h hv]

theorem read_of_type_eq_size (htype : s.type = .size) (h : c.get? s.key = some v) (hv : v ≠ .null)
    (fallback : Option Value) : c.read s fallback = v.toByteSize.map .size := by
  rw [read_of_get?_eq_some h hv, htype]
  exact Value.convert_size hv

variable {key : String} {default amount : ByteSize} {cause : ConversionError}

end Configuration

end SplitPlanning
