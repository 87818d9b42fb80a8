import SplitPlanning.Proofs.Text.Classes
import SplitPlanning.Text.LowerCase

/-!
# Lower case of ASCII texts

Lowering a text looks at the neighbours of a letter and may write two characters for one. None of
this happens to a text in ASCII.
-/

namespace SplitPlanning.Text

/-- The run of the capital letters of ASCII. -/
def capitals : CaseRun :=
  ⟨0x41, 0x5A, 1, 0x61⟩

/-- No other run reaches into ASCII. -/
theorem find?_caseRuns_of_ascii {c : Char} (hc : c.toNat < 128) :
    caseRuns.find? (·.holds c) = if capitals.holds c then some capitals else none := by
  have hbehind : ∀ run ∈ caseRuns.tail, 128 ≤ run.first := by decide +kernel
  have hnone : caseRuns.tail.find? (·.holds c) = none := by
    apply List.find?_eq_none.mpr
    intro run hrun hholds
    have hfirst : run.first ≤ c.toNat := by
      simp only [CaseRun.holds, Bool.and_eq_true, decide_eq_true_eq] at hholds
      exact hholds.1.1
    exact absurd (hbehind run hrun) (by omega)
  calc
    caseRuns.find? (·.holds c) = (capitals :: caseRuns.tail).find? (·.holds c) := rfl
    _ = if capitals.holds c then some capitals else none := by
      rw [List.find?_cons, hnone]
      cases capitals.holds c <;> rfl

theorem lowerChar_of_ascii {c : Char} (hc : c.toNat < 128) : lowerChar c = c.toLower := by
  have hletters : ∀ n < 128,
      (if capitals.holds (Char.ofNat n) then capitals.lowerOf (Char.ofNat n) else Char.ofNat n) =
        (Char.ofNat n).toLower := by
    decide
  have hcase := hletters c.toNat hc
  rw [Char.ofNat_toNat] at hcase
  rw [lowerChar, find?_caseRuns_of_ascii hc, ← hcase]
  cases capitals.holds c <;> rfl

/-- Neither character with a lower case of its own rule is in ASCII. -/
theorem lowerBetween_of_ascii {c : Char} (hc : c.toNat < 128) (before after : List Char) :
    lowerBetween before c after = [c.toLower] := by
  have hsigma : c ≠ 'Σ' := by
    rintro rfl
    exact absurd hc (by decide)
  have hdotted : c ≠ 'İ' := by
    rintro rfl
    exact absurd hc (by decide)
  rw [lowerBetween, if_neg hsigma, if_neg hdotted, lowerChar_of_ascii hc]

theorem lowerAfter_of_ascii {s : List Char} (hs : ∀ c ∈ s, c.toNat < 128) (before : List Char) :
    lowerAfter before s = s.map Char.toLower := by
  -- What stands before a character matters to a capital sigma only, so it may be anything.
  induction s generalizing before with
  | nil => rfl
  | cons c rest ih =>
    have hrest := ih (fun d hd ↦ hs d (List.mem_cons_of_mem c hd)) (c :: before)
    rw [lowerAfter, lowerBetween_of_ascii (hs c List.mem_cons_self), hrest]
    rfl

theorem lower_of_ascii {s : List Char} (hs : ∀ c ∈ s, c.toNat < 128) :
    lower s = s.map Char.toLower :=
  lowerAfter_of_ascii hs []

theorem toNat_lt_of_isAlpha {c : Char} (h : c.isAlpha = true) : c.toNat < 128 := by
  obtain ⟨range, hrange, -, hlast⟩ := inRanges_eq_true_iff.mp (inRanges_letterRanges h)
  have hascii : ∀ range ∈ letterRanges, range.last < 128 := by decide
  exact Nat.lt_of_le_of_lt hlast (hascii range hrange)

end SplitPlanning.Text
