import Mathlib.Data.List.Pairwise
import SplitPlanning.Proofs.Storage.Answers

/-!
# Boundaries behind positions

The boundary behind a position is the same for all positions up to there, so it does not move back
when the position moves on. Blocks may lie in any order.
-/

namespace SplitPlanning

variable {blocks : List Block}

theorem boundaryIn_eq_none_of_firstBehind {position : Int}
    (hfirst : blocks[firstBehind blocks position]? = none) :
    boundaryIn blocks position = none := by
  rw [boundaryIn_eq, hfirst, Option.map_none]

theorem boundaryIn_nil (position : Int) : boundaryIn [] position = none := rfl

/-- A boundary is an edge of the first block that ends behind the position. -/
theorem exists_firstBehind_of_mem_boundaryIn {position bound : Int}
    (h : bound ∈ boundaryIn blocks position) :
    ∃ b, blocks[firstBehind blocks position]? = some b ∧
      bound = if position ∈ b then b.stop else b.offset := by
  cases hfirst : blocks[firstBehind blocks position]? with
  | none =>
    rw [boundaryIn_eq_none_of_firstBehind hfirst] at h
    exact absurd h (Option.not_mem_none bound)
  | some b =>
    rw [boundaryIn_of_firstBehind hfirst, Option.mem_some_iff] at h
    exact ⟨b, rfl, h.symm⟩

theorem lt_of_mem_boundaryIn {position bound : Int} (h : bound ∈ boundaryIn blocks position) :
    position < bound := by
  obtain ⟨b, hfirst, rfl⟩ := exists_firstBehind_of_mem_boundaryIn h
  have hstop := lt_stop_of_firstBehind hfirst
  split
  case isTrue => exact hstop
  case isFalse hout =>
    have hoffset : ¬b.offset ≤ position := fun hle ↦ hout (Block.mem_iff.mpr ⟨hle, hstop⟩)
    omega

/-- From a position up to the boundary behind it, that boundary stays the next one. -/
theorem boundaryIn_eq_of_lt_boundary (hlengths : ∀ b ∈ blocks, 0 ≤ b.length)
    {position later : Int} (hle : position ≤ later)
    (hboundary : ∀ bound ∈ boundaryIn blocks position, later < bound) :
    boundaryIn blocks later = boundaryIn blocks position := by
  have hbehind := firstBehind_eq_of_lt_boundary hlengths hle hboundary
  cases hfirst : blocks[firstBehind blocks position]? with
  | none =>
    have hlater : blocks[firstBehind blocks later]? = none := by rw [hbehind, hfirst]
    rw [boundaryIn_eq_none_of_firstBehind hfirst, boundaryIn_eq_none_of_firstBehind hlater]
  | some b =>
    have hlength := hlengths b (List.mem_of_getElem? hfirst)
    have hlater : blocks[firstBehind blocks later]? = some b := by rw [hbehind, hfirst]
    have hmem := mem_iff_of_lt_boundary hlength hle hfirst hboundary
    rw [boundaryIn_of_firstBehind hfirst, boundaryIn_of_firstBehind hlater]
    simp only [hmem]

/-! ## The order of boundaries -/

/-- Whether a boundary lies no later than another one. No boundary at all is later than any. -/
def NoLater (boundary other : Option Int) : Prop :=
  ∀ bound ∈ other, ∃ earlier ∈ boundary, earlier ≤ bound

theorem noLater_none (boundary : Option Int) : NoLater boundary none := by
  intro bound hbound
  exact absurd hbound (Option.not_mem_none bound)

theorem noLater_of_le {bound later : Int} (h : bound ≤ later) :
    NoLater (some bound) (some later) := by
  intro other hother
  obtain rfl := Option.mem_some_iff.mp hother
  exact ⟨bound, rfl, h⟩

theorem NoLater.trans {boundary middle other : Option Int} (h : NoLater boundary middle)
    (h' : NoLater middle other) : NoLater boundary other := by
  intro bound hbound
  obtain ⟨between, hbetween, hle⟩ := h' bound hbound
  obtain ⟨earlier, hearlier, hearlier_le⟩ := h between hbetween
  exact ⟨earlier, hearlier, Int.le_trans hearlier_le hle⟩

/-- A position that moves on leaves the boundary where it was or passes it. -/
theorem boundaryIn_noLater (hlengths : ∀ b ∈ blocks, 0 ≤ b.length) {position later : Int}
    (hle : position ≤ later) : NoLater (boundaryIn blocks position) (boundaryIn blocks later) := by
  intro bound hbound
  by_cases hpassed : ∃ earlier ∈ boundaryIn blocks position, earlier ≤ later
  · obtain ⟨earlier, hearlier, hearlier_le⟩ := hpassed
    have hahead := lt_of_mem_boundaryIn hbound
    exact ⟨earlier, hearlier, by omega⟩
  · have hstays : ∀ earlier ∈ boundaryIn blocks position, later < earlier := by
      intro earlier hearlier
      exact Int.not_le.mp fun h ↦ hpassed ⟨earlier, hearlier, h⟩
    rw [boundaryIn_eq_of_lt_boundary hlengths hle hstays] at hbound
    exact ⟨bound, hbound, Int.le_refl bound⟩

/-! ## Blocks that do not overlap -/

/-- Whether no position lies in two of the blocks. -/
def DoNotOverlap (blocks : List Block) : Prop :=
  blocks.Pairwise fun b c ↦ ∀ position, position ∈ b → position ∉ c

theorem DoNotOverlap.eq_of_mem (h : DoNotOverlap blocks) {b c : Block} (hb : b ∈ blocks)
    (hc : c ∈ blocks) {position : Int} (hmemb : position ∈ b) (hmemc : position ∈ c) : b = c := by
  by_contra hne
  have hsymm : Std.Symm fun b c : Block ↦ ∀ position, position ∈ b → position ∉ c :=
    ⟨fun b c hbc position hmemc hmemb ↦ hbc position hmemb hmemc⟩
  exact h.forall hb hc hne position hmemb hmemc

theorem DoNotOverlap.boundaryIn_of_mem (h : DoNotOverlap blocks)
    (hsorted : blocks.Pairwise fun b c ↦ b.offset ≤ c.offset) {b : Block} (hb : b ∈ blocks)
    {position : Int} (hmem : position ∈ b) : boundaryIn blocks position = some b.stop := by
  obtain ⟨first, hfirst, hholds⟩ := mem_firstBehind_of_mem hsorted hb hmem
  have heq : first = b := h.eq_of_mem (List.mem_of_getElem? hfirst) hb hholds hmem
  rw [boundaryIn_of_firstBehind hfirst, if_pos hholds, heq]

end SplitPlanning
