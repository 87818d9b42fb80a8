/-! # Totals -/

namespace SplitPlanning

variable {α β : Type}

def totalOf (amount : α → Int) : List α → Int
  | [] => 0
  | a :: rest => amount a + totalOf amount rest

@[simp] theorem totalOf_nil (amount : α → Int) : totalOf amount [] = 0 := rfl

@[simp] theorem totalOf_cons (amount : α → Int) (a : α) (rest : List α) :
    totalOf amount (a :: rest) = amount a + totalOf amount rest := rfl

@[simp] theorem totalOf_append (amount : α → Int) (l m : List α) :
    totalOf amount (l ++ m) = totalOf amount l + totalOf amount m := by
  induction l with
  | nil => simp
  | cons a rest ih =>
    rw [List.cons_append, totalOf_cons, totalOf_cons, ih]
    omega

theorem totalOf_map (amount : β → Int) (f : α → β) (l : List α) :
    totalOf amount (l.map f) = totalOf (fun a ↦ amount (f a)) l := by
  induction l with
  | nil => rfl
  | cons a rest ih => rw [List.map_cons, totalOf_cons, totalOf_cons, ih]

theorem totalOf_flatMap (amount : β → Int) (parts : α → List β) (l : List α) :
    totalOf amount (l.flatMap parts) = totalOf (fun a ↦ totalOf amount (parts a)) l := by
  induction l with
  | nil => rfl
  | cons a rest ih => rw [List.flatMap_cons, totalOf_append, totalOf_cons, ih]

theorem totalOf_nonneg {amount : α → Int} {l : List α} (h : ∀ a ∈ l, 0 ≤ amount a) :
    0 ≤ totalOf amount l := by
  induction l with
  | nil => simp
  | cons a rest ih =>
    have hfirst : 0 ≤ amount a := h a (by simp)
    have hrest : 0 ≤ totalOf amount rest := ih fun b hb ↦ h b (by simp [hb])
    rw [totalOf_cons]
    omega

end SplitPlanning
