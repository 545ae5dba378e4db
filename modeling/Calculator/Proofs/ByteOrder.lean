import Calculator.Text.Blank
import Mathlib.Algebra.Group.Nat.Defs

/-!
# The order of bytes

Texts in UTF-8 are in the order of their code points. The first byte of a character tells how many
follow, and it grows with the code point, so of two characters the smaller has the smaller byte in
the first place where their bytes differ.
-/

namespace Calculator.Text

/-- The bytes of a text in UTF-8. -/
def bytes (s : String) : List UInt8 := s.toUTF8.data.toList

theorem bytes_eq_flatMap (s : String) : bytes s = s.toList.flatMap String.utf8EncodeChar := by
  conv => lhs; rw [← String.ofList_toList (s := s)]
  rw [bytes, String.toUTF8, String.toByteArray_ofList, List.utf8Encode,
    List.toList_data_toByteArray]

/-! ## Characters -/

/-- How many bytes follow the first. -/
def followers (v : Nat) : Nat :=
  if v ≤ 127 then 0 else if v ≤ 2047 then 1 else if v ≤ 65535 then 2 else 3

def firstByte (v : Nat) : Nat :=
  if v ≤ 127 then v
  else if v ≤ 2047 then v / 64 + 192
  else if v ≤ 65535 then v / 4096 + 224
  else v / 262144 + 240

/-- The last digits of `v` to the base 64, each in a byte. -/
def lastDigits : Nat → Nat → List UInt8
  | 0, _ => []
  | k + 1, v => lastDigits k (v / 64) ++ [UInt8.ofNat (v % 64 + 128)]

theorem toNat_val_lt (c : Char) : c.val.toNat < 1114112 := by
  rcases c.valid with h | ⟨-, h⟩
  · exact Nat.lt_trans h (by decide)
  · exact h

theorem utf8EncodeChar_eq (c : Char) :
    String.utf8EncodeChar c =
      UInt8.ofNat (firstByte c.val.toNat) :: lastDigits (followers c.val.toNat) c.val.toNat := by
  have hv := toNat_val_lt c
  simp only [String.utf8EncodeChar, firstByte, followers]
  generalize c.val.toNat = v at hv ⊢
  split
  · rfl
  split
  · have hlead : v / 64 % 32 = v / 64 := by omega
    simp [lastDigits, hlead]
  split
  · have hlead : v / 4096 % 16 = v / 4096 := by omega
    simp [lastDigits, hlead]
  · have hlead : v / 262144 % 8 = v / 262144 := by omega
    simp [lastDigits, hlead, Nat.div_div_eq_div_mul]

theorem firstByte_lt {v : Nat} (h : v < 1114112) : firstByte v < 256 := by
  unfold firstByte
  repeat' split
  all_goals omega

theorem firstByte_lt_or {v w : Nat} (h : v < w) :
    firstByte v < firstByte w ∨ firstByte v = firstByte w ∧ followers v = followers w ∧
      v / 64 ^ followers v = w / 64 ^ followers v := by
  unfold firstByte followers
  repeat' split
  all_goals omega

theorem ofNat_lt_ofNat {m n : Nat} (h : m < n) (hn : n < 256) : UInt8.ofNat m < UInt8.ofNat n := by
  have hm := Nat.lt_trans h hn
  rw [UInt8.lt_iff_toNat_lt, UInt8.toNat_ofNat_of_lt' hm, UInt8.toNat_ofNat_of_lt' hn]
  exact h

theorem lastDigits_append_lt {k v w : Nat} (h : v < w) (hk : v / 64 ^ k = w / 64 ^ k)
    (xs ys : List UInt8) : lastDigits k v ++ xs < lastDigits k w ++ ys := by
  induction k generalizing v w xs ys with
  | zero =>
    rw [Nat.pow_zero, Nat.div_one, Nat.div_one] at hk
    omega
  | succ k ih =>
    simp only [lastDigits, List.append_assoc, List.singleton_append]
    rw [Nat.pow_succ', ← Nat.div_div_eq_div_mul, ← Nat.div_div_eq_div_mul] at hk
    obtain hlt | heq := Nat.lt_or_eq_of_le (Nat.div_le_div_right (c := 64) (Nat.le_of_lt h))
    · exact ih hlt hk _ _
    · rw [heq]
      have hdigit : v % 64 + 128 < w % 64 + 128 := by omega
      exact List.append_left_lt
        (List.cons_lt_cons_iff.mpr (.inl (ofNat_lt_ofNat hdigit (by omega))))

theorem utf8EncodeChar_append_lt {c d : Char} (h : c < d) (xs ys : List UInt8) :
    String.utf8EncodeChar c ++ xs < String.utf8EncodeChar d ++ ys := by
  have hlt : c.val.toNat < d.val.toNat := h
  rw [utf8EncodeChar_eq, utf8EncodeChar_eq, List.cons_append, List.cons_append,
    List.cons_lt_cons_iff]
  obtain hfirst | ⟨hfirst, hmore, hdigits⟩ := firstByte_lt_or hlt
  · exact .inl (ofNat_lt_ofNat hfirst (firstByte_lt (toNat_val_lt d)))
  · rw [hfirst, ← hmore]
    exact .inr ⟨rfl, lastDigits_append_lt hlt hdigits xs ys⟩

/-! ## Texts -/

theorem flatMap_utf8EncodeChar_lt {cs ds : List Char} (h : cs < ds) :
    cs.flatMap String.utf8EncodeChar < ds.flatMap String.utf8EncodeChar := by
  induction cs generalizing ds with
  | nil =>
    cases ds with
    | nil => exact absurd h (List.lt_irrefl _)
    | cons d ds =>
      rw [List.flatMap_nil, List.flatMap_cons, utf8EncodeChar_eq]
      exact List.nil_lt_cons _ _
  | cons c cs ih =>
    cases ds with
    | nil => exact absurd h (List.not_lt_nil _)
    | cons d ds =>
      rw [List.flatMap_cons, List.flatMap_cons]
      obtain hlt | ⟨rfl, hlt⟩ := List.cons_lt_cons_iff.mp h
      · exact utf8EncodeChar_append_lt hlt _ _
      · exact List.append_left_lt (ih hlt)

theorem bytes_lt {s t : String} (h : s < t) : bytes s < bytes t := by
  rw [bytes_eq_flatMap, bytes_eq_flatMap]
  exact flatMap_utf8EncodeChar_lt h

end Calculator.Text
