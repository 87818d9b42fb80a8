import SplitPlanning.Text.Utf8

/-!
# UTF-8 written and read again

The reader looks at one byte at a time, so for each number of bytes it is followed through a
character: the first byte leaves room for just those that may come second, and every further one
adds six bits.
-/

namespace SplitPlanning.Text.Utf8

def encode (text : String) : List UInt8 :=
  text.toList.flatMap String.utf8EncodeChar

/-! ## One byte -/

theorem toNat_ofNat {n : Nat} (h : n < 256) : (UInt8.ofNat n).toNat = n :=
  UInt8.toNat_ofNat_of_lt h

section Inside

variable {owed least greatest value n : Nat} (hleast : least ≤ n) (hgreatest : n ≤ greatest)
  (hn : n < 256) (rest : List UInt8)

include hleast hgreatest hn

/-- The last byte that is owed completes the character. -/
theorem readFrom_inside_zero :
    readFrom (.inside 0 least greatest value) (UInt8.ofNat n :: rest) =
      Char.ofNat (value * 64 + (n - 0x80)) :: readFrom .boundary rest := by
  rw [readFrom, toNat_ofNat hn, readByte, if_pos ⟨hleast, hgreatest⟩]
  rfl

theorem readFrom_inside_succ :
    readFrom (.inside (owed + 1) least greatest value) (UInt8.ofNat n :: rest) =
      readFrom (.inside owed 0x80 0xBF (value * 64 + (n - 0x80))) rest := by
  rw [readFrom, toNat_ofNat hn, readByte, if_pos ⟨hleast, hgreatest⟩]
  rfl

end Inside

theorem readFrom_boundary {n : Nat} (hn : n < 256) (rest : List UInt8) :
    readFrom .boundary (UInt8.ofNat n :: rest) =
      (readFirst n).1 ++ readFrom (readFirst n).2 rest := by
  rw [readFrom, toNat_ofNat hn]
  rfl

/-! ## First bytes -/

theorem readFirst_two {high : Nat} (hleast : 2 ≤ high) (hhigh : high < 32) :
    readFirst (high + 0xC0) = ([], .inside 0 0x80 0xBF high) := by
  unfold readFirst
  rw [if_neg (by omega), if_neg (by omega), if_pos (by omega), Nat.add_sub_cancel]

/-- The second byte begins no overlong character and no surrogate. -/
theorem readFirst_three {high second : Nat} (hhigh : high < 16) (hsecond : second < 64)
    (hlong : high = 0 → 32 ≤ second) (hscalar : high = 13 → second < 32) :
    ∃ least greatest, readFirst (high + 0xE0) = ([], .inside 1 least greatest high) ∧
      least ≤ second + 0x80 ∧ second + 0x80 ≤ greatest := by
  by_cases hzero : high = 0
  · subst hzero
    exact ⟨_, _, rfl, by omega, by omega⟩
  · by_cases hthirteen : high = 13
    · subst hthirteen
      exact ⟨_, _, rfl, by omega, by omega⟩
    · refine ⟨0x80, 0xBF, ?_, by omega, by omega⟩
      unfold readFirst
      rw [if_neg (by omega), if_neg (by omega), if_neg (by omega), if_neg (by omega),
        if_neg (by omega), if_pos (by omega), Nat.add_sub_cancel]

/-- The second byte begins no overlong character and none that is too large. -/
theorem readFirst_four {high second : Nat} (hhigh : high ≤ 4) (hsecond : second < 64)
    (hlong : high = 0 → 16 ≤ second) (hscalar : high = 4 → second < 16) :
    ∃ least greatest, readFirst (high + 0xF0) = ([], .inside 2 least greatest high) ∧
      least ≤ second + 0x80 ∧ second + 0x80 ≤ greatest := by
  have hcases : high = 0 ∨ high = 1 ∨ high = 2 ∨ high = 3 ∨ high = 4 := by omega
  rcases hcases with rfl | rfl | rfl | rfl | rfl <;> exact ⟨_, _, rfl, by omega, by omega⟩

/-! ## Characters -/

section Characters

variable {high second third low : Nat} (rest : List UInt8)

theorem readFrom_one (hhigh : high < 0x80) :
    readFrom .boundary (UInt8.ofNat high :: rest) = Char.ofNat high :: readFrom .boundary rest := by
  rw [readFrom_boundary (by omega), readFirst, if_pos hhigh]
  rfl

theorem readFrom_two (hleast : 2 ≤ high) (hhigh : high < 32) (hlow : low < 64) :
    readFrom .boundary (UInt8.ofNat (high + 0xC0) :: UInt8.ofNat (low + 0x80) :: rest) =
      Char.ofNat (high * 64 + low) :: readFrom .boundary rest := by
  rw [readFrom_boundary (by omega), readFirst_two hleast hhigh, List.nil_append,
    readFrom_inside_zero (by omega) (by omega) (by omega), Nat.add_sub_cancel]

theorem readFrom_three (hhigh : high < 16) (hsecond : second < 64)
    (hlong : high = 0 → 32 ≤ second) (hscalar : high = 13 → second < 32) (hlow : low < 64) :
    readFrom .boundary (UInt8.ofNat (high + 0xE0) :: UInt8.ofNat (second + 0x80) ::
        UInt8.ofNat (low + 0x80) :: rest) =
      Char.ofNat ((high * 64 + second) * 64 + low) :: readFrom .boundary rest := by
  obtain ⟨least, greatest, hfirst, hleast, hgreatest⟩ :=
    readFirst_three hhigh hsecond hlong hscalar
  rw [readFrom_boundary (by omega), hfirst, List.nil_append,
    readFrom_inside_succ hleast hgreatest (by omega),
    readFrom_inside_zero (by omega) (by omega) (by omega), Nat.add_sub_cancel, Nat.add_sub_cancel]

theorem readFrom_four (hhigh : high ≤ 4) (hsecond : second < 64)
    (hlong : high = 0 → 16 ≤ second) (hscalar : high = 4 → second < 16) (hthird : third < 64)
    (hlow : low < 64) :
    readFrom .boundary (UInt8.ofNat (high + 0xF0) :: UInt8.ofNat (second + 0x80) ::
        UInt8.ofNat (third + 0x80) :: UInt8.ofNat (low + 0x80) :: rest) =
      Char.ofNat (((high * 64 + second) * 64 + third) * 64 + low) ::
        readFrom .boundary rest := by
  obtain ⟨least, greatest, hfirst, hleast, hgreatest⟩ :=
    readFirst_four hhigh hsecond hlong hscalar
  rw [readFrom_boundary (by omega), hfirst, List.nil_append,
    readFrom_inside_succ hleast hgreatest (by omega),
    readFrom_inside_succ (by omega) (by omega) (by omega),
    readFrom_inside_zero (by omega) (by omega) (by omega), Nat.add_sub_cancel, Nat.add_sub_cancel,
    Nat.add_sub_cancel]

end Characters

theorem readFrom_utf8EncodeChar (c : Char) (rest : List UInt8) :
    readFrom .boundary (String.utf8EncodeChar c ++ rest) = c :: readFrom .boundary rest := by
  have hvalid : c.val.toNat < 0xD800 ∨ 0xDFFF < c.val.toNat ∧ c.val.toNat < 0x110000 := c.valid
  have hchar : Char.ofNat c.val.toNat = c := c.ofNat_toNat
  unfold String.utf8EncodeChar
  generalize c.val.toNat = v at hvalid hchar ⊢
  dsimp only
  split
  case isTrue hone => rw [List.cons_append, List.nil_append, readFrom_one rest (by omega), hchar]
  case isFalse hone =>
    split
    case isTrue htwo =>
      have hv : v / 64 % 32 * 64 + v % 64 = v := by omega
      rw [List.cons_append, List.cons_append, List.nil_append,
        readFrom_two rest (by omega) (by omega) (by omega), hv, hchar]
    case isFalse htwo =>
      split
      case isTrue hthree =>
        have hv : (v / 4096 % 16 * 64 + v / 64 % 64) * 64 + v % 64 = v := by omega
        rw [List.cons_append, List.cons_append, List.cons_append, List.nil_append,
          readFrom_three rest (by omega) (by omega) (by omega) (by omega) (by omega), hv, hchar]
      case isFalse hthree =>
        have hv : ((v / 262144 % 8 * 64 + v / 4096 % 64) * 64 + v / 64 % 64) * 64 + v % 64 = v := by
          omega
        rw [List.cons_append, List.cons_append, List.cons_append, List.cons_append,
          List.nil_append, readFrom_four rest (by omega) (by omega) (by omega) (by omega) (by omega)
            (by omega), hv, hchar]

/-! ## Texts -/

/-- **Reading the encoding of a text gives the text.** -/
theorem decode_encode (text : String) : decode (encode text) = text := by
  have hread : ∀ chars : List Char,
      readFrom .boundary (chars.flatMap String.utf8EncodeChar) = chars := by
    intro chars
    induction chars with
    | nil => rfl
    | cons c chars ih => rw [List.flatMap_cons, readFrom_utf8EncodeChar, ih]
  rw [decode, encode, hread, String.ofList_toList]

/-- Bytes are valid UTF-8 exactly if they encode a text. -/
theorem isValidUTF8_iff_exists_encode (bytes : List UInt8) :
    bytes.toByteArray.IsValidUTF8 ↔ ∃ text, bytes = encode text := by
  constructor
  · rintro ⟨chars, hchars⟩
    refine ⟨String.ofList chars, ?_⟩
    rw [encode, String.toList_ofList]
    exact List.toByteArray_inj.mp hchars
  · rintro ⟨text, rfl⟩
    exact ⟨text.toList, rfl⟩

end SplitPlanning.Text.Utf8
