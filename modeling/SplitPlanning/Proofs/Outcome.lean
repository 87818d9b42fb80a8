/-! # Steps that succeed -/

namespace SplitPlanning

variable {ε ε' α β : Type}

theorem bind_of_eq_ok {x : Except ε α} {a : α} (h : x = .ok a) (next : α → Except ε β) :
    x >>= next = next a := by
  rw [h]
  rfl

theorem bind_of_eq_error {x : Except ε α} {e : ε} (h : x = .error e) (next : α → Except ε β) :
    x >>= next = .error e := by
  rw [h]
  rfl

/-- Two steps succeed only if the first does and then the second. -/
theorem exists_of_bind_eq_ok {x : Except ε α} {next : α → Except ε β} {b : β}
    (h : x >>= next = .ok b) : ∃ a, x = .ok a ∧ next a = .ok b := by
  cases x with
  | error e => contradiction
  | ok a => exact ⟨a, rfl, h⟩

theorem mapError_eq_ok {x : Except ε α} {a : α} (h : x = .ok a) (f : ε → ε') :
    x.mapError f = .ok a := by
  rw [h]
  rfl

theorem mapError_eq_error {x : Except ε α} {e : ε} (h : x = .error e) (f : ε → ε') :
    x.mapError f = .error (f e) := by
  rw [h]
  rfl

theorem eq_ok_of_mapError_eq_ok {x : Except ε α} {f : ε → ε'} {a : α}
    (h : x.mapError f = .ok a) : x = .ok a := by
  cases x with
  | error e => contradiction
  | ok b =>
    obtain rfl := Except.ok.inj h
    rfl

/-- Whether two steps come out alike: with one result, or both in failure, for whatever reason. -/
def Alike (x y : Except ε α) : Prop :=
  ∀ a, x = .ok a ↔ y = .ok a

theorem exists_eq_error_iff {x : Except ε α} : (∃ e, x = .error e) ↔ ∀ a, x ≠ .ok a := by
  cases x with
  | error e => simp
  | ok a => simp

end SplitPlanning
