import SplitPlanning.Text.Blank

/-! # Host lists -/

namespace SplitPlanning.HostList

open Text

/-- The pieces between the commas of a text, of which there is always at least one. -/
def pieces : List Char → List (List Char)
  | [] => [[]]
  | c :: rest =>
    if c = ',' then [] :: pieces rest
    else
      match pieces rest with
      | [] => [[c]]
      | piece :: more => (c :: piece) :: more

theorem pieces_ne_nil (s : List Char) : pieces s ≠ [] := by
  cases s with
  | nil => simp [pieces]
  | cons c rest =>
    unfold pieces
    split
    · simp
    · split <;> simp

theorem comma_notMem_of_mem_pieces {s piece : List Char} (h : piece ∈ pieces s) : ',' ∉ piece := by
  induction s generalizing piece with
  | nil => simp_all [pieces]
  | cons c rest ih =>
    unfold pieces at h
    split at h
    · rcases List.mem_cons.mp h with rfl | h
      · simp
      · exact ih h
    · rename_i hc
      split at h
      · rename_i hnil
        exact absurd hnil (pieces_ne_nil rest)
      · rename_i first more hpieces
        rcases List.mem_cons.mp h with rfl | h
        · have hfirst : first ∈ pieces rest := by simp [hpieces]
          have := ih hfirst
          simp [Ne.symm hc, this]
        · exact ih (by simp [hpieces, h])

def decode (text : String) : List String :=
  ((pieces text.toList).map trim |>.filter (· ≠ [])).map String.ofList

/-- The hosts in one text, separated by commas alone. -/
def encode (hosts : List String) : String :=
  ",".intercalate hosts

example : decode " a , ,b" = ["a", "b"] := by decide +kernel

end SplitPlanning.HostList
