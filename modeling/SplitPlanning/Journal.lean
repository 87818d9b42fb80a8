import SplitPlanning.Event

/-!
# Journals

A step of planning reports events and then succeeds or fails. What was reported before a failure
stays reported, and steps behind a failure are not taken.
-/

namespace SplitPlanning

/-- The events that a step reported, in order, and how it ended. -/
structure Journal (ε α : Type) where
  events : List Event
  outcome : Except ε α

namespace Journal

variable {ε ε' α β : Type}

def bind (j : Journal ε α) (next : α → Journal ε β) : Journal ε β :=
  match j.outcome with
  | .error e => ⟨j.events, .error e⟩
  | .ok a => ⟨j.events ++ (next a).events, (next a).outcome⟩

instance : Monad (Journal ε) where
  pure a := ⟨[], .ok a⟩
  bind := bind

def report (e : Event) : Journal ε Unit :=
  ⟨[e], .ok ()⟩

/-- A step that reports nothing. -/
def ofExcept (outcome : Except ε α) : Journal ε α :=
  ⟨[], outcome⟩

def mapError (f : ε → ε') (j : Journal ε α) : Journal ε' α :=
  ⟨j.events, j.outcome.mapError f⟩

@[simp] theorem events_pure (a : α) : (pure a : Journal ε α).events = [] := rfl

@[simp] theorem outcome_pure (a : α) : (pure a : Journal ε α).outcome = .ok a := rfl

theorem bind_of_error {j : Journal ε α} {e : ε} (h : j.outcome = .error e)
    (next : α → Journal ε β) : j >>= next = ⟨j.events, .error e⟩ := by
  change j.bind next = _
  simp [bind, h]

theorem bind_of_ok {j : Journal ε α} {a : α} (h : j.outcome = .ok a)
    (next : α → Journal ε β) :
    j >>= next = ⟨j.events ++ (next a).events, (next a).outcome⟩ := by
  change j.bind next = _
  simp [bind, h]

theorem exists_of_outcome_bind_eq_ok {j : Journal ε α} {next : α → Journal ε β} {b : β}
    (h : (j >>= next).outcome = .ok b) :
    ∃ a, j.outcome = .ok a ∧ (next a).outcome = .ok b := by
  cases hj : j.outcome with
  | error e =>
    rw [bind_of_error hj] at h
    contradiction
  | ok a =>
    rw [bind_of_ok hj] at h
    exact ⟨a, rfl, h⟩

end Journal

end SplitPlanning
