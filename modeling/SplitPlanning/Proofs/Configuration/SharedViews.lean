import Mathlib.Data.List.GetD
import SplitPlanning.Configuration.JobSettings
import SplitPlanning.Configuration.Sharing

/-!
# Views that share and views apart

Whatever is done, a view keeps its slot, and a slot changes by the pairs that are written to it and
by nothing else. Importing and copying open a slot that was not there before, so from then on the
writes to the one and to the other do not meet.
-/

namespace SplitPlanning.Registry

/-! ## Slots and views of a registry -/

def HasSlot (r : Registry) (slot : Slot) : Prop :=
  slot.index < r.slots.length

def HasView (r : Registry) (view : View) : Prop :=
  view.index < r.views.length

instance (r : Registry) (slot : Slot) : Decidable (r.HasSlot slot) :=
  inferInstanceAs (Decidable (slot.index < r.slots.length))

instance (r : Registry) (view : View) : Decidable (r.HasView view) :=
  inferInstanceAs (Decidable (view.index < r.views.length))

/-- Whether every view shares a slot that is there. -/
def Sound (r : Registry) : Prop :=
  ∀ slot ∈ r.views, r.HasSlot slot

instance (r : Registry) : Decidable r.Sound :=
  inferInstanceAs (Decidable (∀ slot ∈ r.views, r.HasSlot slot))

variable {r r' r'' : Registry} {slot : Slot} {view : View}

theorem Sound.hasSlot_slotOf (hr : r.Sound) (hview : r.HasView view) :
    r.HasSlot (r.slotOf view) := by
  apply hr
  rw [slotOf, List.getD_eq_getElem _ _ hview]
  exact List.getElem_mem hview

/-! ## Operations -/

/-- What may be done to a registry. -/
inductive Operation where
  | place (c : Configuration)
  | share (slot : Slot)
  | openFrom (source : Source)
  | openCopy (view : View)
  | assign (view : View) (s : Setting) (value : Value)
  | put (slot : Slot) (key : String) (value : Value)

/-- Whether an operation names only slots and views that a registry has. -/
def Operation.Fits (r : Registry) : Operation → Prop
  | place _ => True
  | share slot => r.HasSlot slot
  | openFrom .nothing => True
  | openFrom (.slot slot) => r.HasSlot slot
  | openFrom (.view view) => r.HasView view
  | openCopy view => r.HasView view
  | assign view _ _ => r.HasView view
  | put slot _ _ => r.HasSlot slot

instance (r : Registry) : (op : Operation) → Decidable (op.Fits r)
  | .place _ => inferInstanceAs (Decidable True)
  | .share slot => inferInstanceAs (Decidable (r.HasSlot slot))
  | .openFrom .nothing => inferInstanceAs (Decidable True)
  | .openFrom (.slot slot) => inferInstanceAs (Decidable (r.HasSlot slot))
  | .openFrom (.view view) => inferInstanceAs (Decidable (r.HasView view))
  | .openCopy view => inferInstanceAs (Decidable (r.HasView view))
  | .assign view _ _ => inferInstanceAs (Decidable (r.HasView view))
  | .put slot _ _ => inferInstanceAs (Decidable (r.HasSlot slot))

def perform (r : Registry) : Operation → Registry
  | .place c => (r.place c).1
  | .share slot => (r.share slot).1
  | .openFrom source => (r.openFrom source).1
  | .openCopy view => (r.openCopy view).1
  | .assign view s value => r.assign view s value
  | .put slot key value => r.put slot key value

def written (r : Registry) (slot : Slot) : Operation → List (String × Value)
  | .assign view s value => if r.slotOf view = slot then [(s.key, .text value.display)] else []
  | .put target key value => if target = slot then [(key, value)] else []
  | _ => []

def performAll (r : Registry) : List Operation → Registry
  | [] => r
  | op :: rest => (r.perform op).performAll rest

/-- Whether each of the operations fits when its turn comes. -/
def Permits (r : Registry) : List Operation → Prop
  | [] => True
  | op :: rest => op.Fits r ∧ (r.perform op).Permits rest

instance decidablePermits (r : Registry) : (ops : List Operation) → Decidable (r.Permits ops)
  | [] => inferInstanceAs (Decidable True)
  | op :: rest =>
    have := decidablePermits (r.perform op) rest
    inferInstanceAs (Decidable (op.Fits r ∧ (r.perform op).Permits rest))

def writtenAll (r : Registry) (slot : Slot) : List Operation → List (String × Value)
  | [] => []
  | op :: rest => r.written slot op ++ (r.perform op).writtenAll slot rest

/-! ## What operations leave as it is -/

/-- Slots and views are the same but for the pairs written to each slot. -/
structure Becomes (r r' : Registry) (pairs : Slot → List (String × Value)) : Prop where
  sound : r'.Sound
  hasSlot : ∀ slot, r.HasSlot slot → r'.HasSlot slot
  content_eq : ∀ slot, r.HasSlot slot → r'.content slot = (r.content slot).insertAll (pairs slot)
  hasView : ∀ view, r.HasView view → r'.HasView view
  slotOf_eq : ∀ view, r.HasView view → r'.slotOf view = r.slotOf view

namespace Becomes

variable {pairs later : Slot → List (String × Value)}

theorem refl (hr : r.Sound) : r.Becomes r fun _ ↦ [] where
  sound := hr
  hasSlot _ := id
  content_eq _ _ := rfl
  hasView _ := id
  slotOf_eq _ _ := rfl

theorem trans (h : r.Becomes r' pairs) (h' : r'.Becomes r'' later) :
    r.Becomes r'' fun slot ↦ pairs slot ++ later slot where
  sound := h'.sound
  hasSlot slot hslot := h'.hasSlot slot (h.hasSlot slot hslot)
  content_eq slot hslot := by
    rw [h'.content_eq slot (h.hasSlot slot hslot), h.content_eq slot hslot]
    exact List.foldl_append.symm
  hasView view hview := h'.hasView view (h.hasView view hview)
  slotOf_eq view hview := by
    rw [h'.slotOf_eq view (h.hasView view hview), h.slotOf_eq view hview]

/-- What is seen through a view changes by what is written to its slot. -/
theorem seen_eq (h : r.Becomes r' pairs) (hr : r.Sound) (hview : r.HasView view) :
    r'.seen view = (r.seen view).insertAll (pairs (r.slotOf view)) := by
  rw [seen, h.slotOf_eq view hview, h.content_eq _ (hr.hasSlot_slotOf hview), seen]

end Becomes

/-! ### One operation -/

theorem becomes_place (hr : r.Sound) (c : Configuration) :
    r.Becomes (r.place c).1 fun _ ↦ [] where
  sound slot hslot := Nat.lt_of_lt_of_le (hr slot hslot) (by simp [place])
  hasSlot slot hslot := Nat.lt_of_lt_of_le hslot (by simp [place])
  content_eq slot hslot := List.getD_append _ _ _ _ hslot
  hasView _ := id
  slotOf_eq view hview := by
    rw [slotOf, slotOf, List.getD_eq_getElem _ _ hview]
    exact List.getD_eq_getElem _ _ hview

theorem becomes_share (hr : r.Sound) (hslot : r.HasSlot slot) :
    r.Becomes (r.share slot).1 fun _ ↦ [] where
  sound other hother := by
    rcases List.mem_append.mp hother with hother | hother
    · exact hr other hother
    · rw [List.mem_singleton.mp hother]
      exact hslot
  hasSlot _ := id
  content_eq _ _ := rfl
  hasView view hview := Nat.lt_of_lt_of_le hview (by simp [share])
  slotOf_eq view hview := List.getD_append _ _ _ _ hview

theorem hasSlot_place (r : Registry) (c : Configuration) : (r.place c).1.HasSlot (r.place c).2 := by
  simp [HasSlot, place]

theorem becomes_openNew (hr : r.Sound) (c : Configuration) :
    r.Becomes (r.openNew c).1 fun _ ↦ [] :=
  have hplaced := becomes_place hr c
  hplaced.trans (becomes_share hplaced.sound (r.hasSlot_place c))

theorem becomes_openFrom (hr : r.Sound) (source : Source) :
    r.Becomes (r.openFrom source).1 fun _ ↦ [] := by
  cases source with
  | nothing => exact becomes_openNew hr ∅
  | slot slot => exact becomes_openNew hr (r.content slot)
  | view view => exact Becomes.refl hr

theorem becomes_put (hr : r.Sound) (target : Slot) (key : String) (value : Value) :
    r.Becomes (r.put target key value) fun slot ↦ if target = slot then [(key, value)] else [] where
  sound slot hslot := by
    have hlength : (r.put target key value).slots.length = r.slots.length :=
      List.length_modify ..
    rw [HasSlot, hlength]
    exact hr slot hslot
  hasSlot slot hslot := by
    rw [HasSlot, put, update, List.length_modify]
    exact hslot
  content_eq slot hslot := by
    by_cases htarget : target = slot
    · subst htarget
      rw [if_pos rfl, put, content_update_self r hslot]
      rfl
    · rw [if_neg htarget, put, content_update_of_ne r (Ne.symm htarget)]
      rfl
  hasView _ := id
  slotOf_eq view _ := r.slotOf_update _ _ view

theorem becomes_perform (hr : r.Sound) {op : Operation} (hop : op.Fits r) :
    r.Becomes (r.perform op) (r.written · op) := by
  cases op with
  | place c => exact becomes_place hr c
  | share slot => exact becomes_share hr hop
  | openFrom source => exact becomes_openFrom hr source
  | openCopy view => exact becomes_openNew hr (r.seen view)
  | assign view s value => exact becomes_put hr (r.slotOf view) s.key (.text value.display)
  | put slot key value => exact becomes_put hr slot key value

/-! ### Many operations -/

theorem becomes_performAll (hr : r.Sound) {ops : List Operation} (hops : r.Permits ops) :
    r.Becomes (r.performAll ops) (r.writtenAll · ops) := by
  induction ops generalizing r with
  | nil => exact Becomes.refl hr
  | cons op rest ih =>
    obtain ⟨hop, hrest⟩ := hops
    have hstep := becomes_perform hr hop
    exact hstep.trans (ih hstep.sound hrest)

/-! ## New views -/

/-- Whether a new view shares a slot: whatever is done later, it shows what is in the slot. -/
structure OpensOnto (r : Registry) (opened : Registry × View) (slot : Slot) : Prop where
  isNew : ¬r.HasView opened.2
  hasView : opened.1.HasView opened.2
  slotOf_eq : opened.1.slotOf opened.2 = slot
  seen_eq : ∀ ops, opened.1.Permits ops →
    (opened.1.performAll ops).seen opened.2 = (opened.1.performAll ops).content slot

/-- Whether a new view stands apart: it shares a new slot that holds a content at first, and what
is written later to this slot does not reach those that were there before, nor the other way. -/
structure OpensApart (r : Registry) (opened : Registry × View) (c : Configuration) : Prop where
  isNew : ¬r.HasView opened.2
  hasView : opened.1.HasView opened.2
  isNew_slotOf : ¬r.HasSlot (opened.1.slotOf opened.2)
  seen_eq : ∀ ops, opened.1.Permits ops →
    (opened.1.performAll ops).seen opened.2 =
      c.insertAll (opened.1.writtenAll (opened.1.slotOf opened.2) ops)
  content_eq : ∀ ops, opened.1.Permits ops → ∀ slot, r.HasSlot slot →
    (opened.1.performAll ops).content slot =
      (r.content slot).insertAll (opened.1.writtenAll slot ops)

theorem isNew_share (r : Registry) (slot : Slot) : ¬r.HasView (r.share slot).2 :=
  Nat.lt_irrefl _

theorem hasView_share (r : Registry) (slot : Slot) :
    (r.share slot).1.HasView (r.share slot).2 := by
  simp [HasView, share]

@[simp] theorem slotOf_share (r : Registry) (slot : Slot) :
    (r.share slot).1.slotOf (r.share slot).2 = slot := by
  simp [slotOf, share]

theorem opensOnto_share (hr : r.Sound) (hslot : r.HasSlot slot) :
    r.OpensOnto (r.share slot) slot where
  isNew := r.isNew_share slot
  hasView := r.hasView_share slot
  slotOf_eq := r.slotOf_share slot
  seen_eq ops hops := by
    have hlater := becomes_performAll (becomes_share hr hslot).sound hops
    rw [seen, hlater.slotOf_eq _ (r.hasView_share slot), slotOf_share]

theorem slotOf_openNew (r : Registry) (c : Configuration) :
    (r.openNew c).1.slotOf (r.openNew c).2 = ⟨r.slots.length⟩ :=
  (r.place c).1.slotOf_share (r.place c).2

theorem seen_openNew (r : Registry) (c : Configuration) :
    (r.openNew c).1.seen (r.openNew c).2 = c := by
  rw [seen, slotOf_openNew]
  simp [openNew, content, share, place]

theorem opensApart_openNew (hr : r.Sound) (c : Configuration) :
    r.OpensApart (r.openNew c) c where
  isNew := (r.place c).1.isNew_share (r.place c).2
  hasView := (r.place c).1.hasView_share (r.place c).2
  isNew_slotOf := by
    rw [slotOf_openNew]
    exact Nat.lt_irrefl _
  seen_eq ops hops := by
    have hview : (r.openNew c).1.HasView (r.openNew c).2 :=
      (r.place c).1.hasView_share (r.place c).2
    have hopened := becomes_openNew hr c
    rw [(becomes_performAll hopened.sound hops).seen_eq hopened.sound hview, seen_openNew]
  content_eq ops hops slot hslot := by
    have hopened := becomes_openNew hr c
    rw [(becomes_performAll hopened.sound hops).content_eq slot (hopened.hasSlot slot hslot),
      hopened.content_eq slot hslot]
    rfl

/-- **Views share or stand apart.** However a registry is used, what is seen through a view changes
by the pairs written to its slot, in their order, and by nothing else. What is imported or copied
stands apart, with the content that its source has at the moment. -/
theorem views_share_or_stand_apart {r : Registry} (hr : r.Sound) :
    (∀ ops, r.Permits ops → r.Becomes (r.performAll ops) (r.writtenAll · ops) ∧
      ∀ view, r.HasView view → (r.performAll ops).seen view =
        (r.seen view).insertAll (r.writtenAll (r.slotOf view) ops)) ∧
    (∀ slot, r.HasSlot slot → r.OpensOnto (r.share slot) slot) ∧
    (∀ view, r.openFrom (.view view) = (r, view)) ∧
    (∀ slot, r.OpensApart (r.openFrom (.slot slot)) (r.content slot)) ∧
    r.OpensApart (r.openFrom .nothing) ∅ ∧
    ∀ view, r.OpensApart (r.openCopy view) (r.seen view) := by
  refine ⟨?run, fun _ ↦ opensOnto_share hr, fun _ ↦ rfl,
    fun slot ↦ opensApart_openNew hr (r.content slot), opensApart_openNew hr ∅,
    fun view ↦ opensApart_openNew hr (r.seen view)⟩
  case run =>
    intro ops hops
    have hrun := becomes_performAll hr hops
    exact ⟨hrun, fun _ ↦ hrun.seen_eq hr⟩

/-- A view and its copy; a pair is written to the slot and one through each of two views. -/
theorem views_share_or_stand_apart_after_copy :
    let c : Configuration := Dictionary.ofList [("a", .integer 0)]
    let r : Registry := ⟨[c], [⟨0⟩]⟩
    let opened := r.openCopy ⟨0⟩
    let later : List Operation :=
      [.put ⟨0⟩ "a" (.integer 1), .assign ⟨1⟩ .blockHosts (.truth true), .share ⟨0⟩,
        .assign ⟨2⟩ .blockHosts (.text "b")]
    let r' := opened.1.performAll later
    r.Sound ∧ opened.1.Permits later ∧
      r'.seen ⟨0⟩ = Dictionary.ofList [("a", .integer 1), ("fs.block.hosts", .text "b")] ∧
      r'.seen ⟨1⟩ = Dictionary.ofList [("a", .integer 0), ("fs.block.hosts", .text "True")] ∧
      r'.seen ⟨2⟩ = r'.seen ⟨0⟩ := by
  intro c r opened later r'
  have hr : r.Sound := by decide
  have hlater : opened.1.Permits later := by decide
  have hops : r.Permits (.openCopy ⟨0⟩ :: later) := ⟨by decide, hlater⟩
  refine ⟨hr, hlater, ?_, ?_, rfl⟩
  · exact ((views_share_or_stand_apart hr).1 _ hops).2 ⟨0⟩ (by decide)
  · exact ((views_share_or_stand_apart hr).2.2.2.2.2 ⟨0⟩).seen_eq later hlater

end SplitPlanning.Registry
