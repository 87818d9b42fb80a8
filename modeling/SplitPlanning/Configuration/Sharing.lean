import SplitPlanning.Configuration.Basic

/-!
# Shared configurations

A job may hold one configuration in several hands. A view opened on a slot shares it: every write
through one of its views, or to the slot itself, is seen by all of them at once. Importing and
copying take the content of the moment into a new slot.
-/

namespace SplitPlanning

structure Slot where
  index : Nat
deriving DecidableEq, Repr

/-- A view of a registry. -/
structure View where
  index : Nat
deriving DecidableEq, Repr

/-- Configurations in their slots, and the slot that each view shares. -/
structure Registry where
  slots : List Configuration
  views : List Slot

namespace Registry

def empty : Registry :=
  ⟨[], []⟩

/-! ## Reading -/

def content (r : Registry) (slot : Slot) : Configuration :=
  r.slots.getD slot.index ∅

/-- The slot that a view shares. For an unknown view it is the empty one behind all slots. -/
def slotOf (r : Registry) (view : View) : Slot :=
  r.views.getD view.index ⟨r.slots.length⟩

def seen (r : Registry) (view : View) : Configuration :=
  r.content (r.slotOf view)

/-! ## Opening slots and views -/

def place (r : Registry) (c : Configuration) : Registry × Slot :=
  ({ r with slots := r.slots ++ [c] }, ⟨r.slots.length⟩)

def share (r : Registry) (slot : Slot) : Registry × View :=
  ({ r with views := r.views ++ [slot] }, ⟨r.views.length⟩)

/-- Opens a view of a configuration in a new slot of its own. -/
def openNew (r : Registry) (c : Configuration) : Registry × View :=
  (r.place c).1.share (r.place c).2

/-- Opens a view of the content that a slot has now, or of an empty configuration. -/
def openImported (r : Registry) (slot? : Option Slot) : Registry × View :=
  match slot? with
  | some slot => r.openNew (r.content slot)
  | none => r.openNew ∅

/-- What a job may be given its configuration as. -/
inductive Source where
  | nothing
  | slot (slot : Slot)
  | view (view : View)
deriving DecidableEq, Repr

/-- Opens a view of what is given. A slot is imported, and a view is used as it is. -/
def openFrom (r : Registry) : Source → Registry × View
  | .nothing => r.openImported none
  | .slot slot => r.openImported (some slot)
  | .view view => (r, view)

def openCopy (r : Registry) (view : View) : Registry × View :=
  r.openNew (r.seen view)

/-! ## Writing -/

def update (r : Registry) (slot : Slot) (change : Configuration → Configuration) : Registry :=
  { r with slots := r.slots.modify slot.index change }

def put (r : Registry) (slot : Slot) (key : String) (value : Value) : Registry :=
  r.update slot fun c ↦ c.insert key value

def assign (r : Registry) (view : View) (s : Setting) (value : Value) : Registry :=
  r.update (r.slotOf view) fun c ↦ c.assign s value

/-! ## What is seen after each operation -/

@[simp] theorem slotOf_update (r : Registry) (slot : Slot)
    (change : Configuration → Configuration) (view : View) :
    (r.update slot change).slotOf view = r.slotOf view := by
  simp [update, slotOf]

theorem content_update_of_ne (r : Registry) {slot other : Slot} (h : other ≠ slot)
    (change : Configuration → Configuration) :
    (r.update slot change).content other = r.content other := by
  have hi : ¬ slot.index = other.index := by
    intro e
    exact h (by cases other; cases slot; simp_all)
  simp [update, content, List.getD_eq_getElem?_getD, hi]

/-- A write to a slot is seen through every view that shares it. -/
theorem content_update_self (r : Registry) {slot : Slot} (h : slot.index < r.slots.length)
    (change : Configuration → Configuration) :
    (r.update slot change).content slot = change (r.content slot) := by
  simp [update, content, List.getD_eq_getElem?_getD, h]

end Registry

end SplitPlanning
