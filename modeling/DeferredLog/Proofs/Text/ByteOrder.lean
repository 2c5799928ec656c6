import Mathlib.Data.List.Lex
import Mathlib.Data.String.Basic

/-!
# The order of texts is the order of their bytes

Texts are compared character by character. Written in UTF-8 they can as well be compared byte by
byte, with the same result (`lt_iff_bytesOf_lt`).

A character is written as a first byte, which tells by its magnitude how many bytes follow, and the
followers, which hold six binary digits each, the highest first. So of two characters the smaller
one has the smaller first byte, or the same one and the smaller followers (`leader_lt_or`), and
followers are compared like the digits of a number (`followers_append_lt`).
-/

namespace DeferredLog.Text

variable {v w k : ℕ} {xs ys : List UInt8}

/-- Of two lists the smaller is the one with the smaller first byte, or with the same and the
smaller rest. -/
theorem ofNat_cons_lt_iff (hv : v < 256) (hw : w < 256) :
    UInt8.ofNat v :: xs < UInt8.ofNat w :: ys ↔ v < w ∨ v = w ∧ xs < ys := by
  rw [List.cons_lt_cons_iff, UInt8.lt_iff_toNat_lt, ← UInt8.toNat_inj, UInt8.toNat_ofNat',
    UInt8.toNat_ofNat', Nat.mod_eq_of_lt hv, Nat.mod_eq_of_lt hw]

/-! ### The bytes of a character -/

/-- How many bytes follow the first one of the character with the number `v`. -/
def followerCount (v : ℕ) : ℕ :=
  if v ≤ 0x7f then 0 else if v ≤ 0x7ff then 1 else if v ≤ 0xffff then 2 else 3

/-- The first byte of a character with so many followers, without the digits that it holds. -/
def mark : ℕ → ℕ
  | 0 => 0
  | 1 => 0xc0
  | 2 => 0xe0
  | _ => 0xf0

/-- The first byte of the character with the number `v`. -/
def leader (v : ℕ) : ℕ :=
  v / 64 ^ followerCount v + mark (followerCount v)

/-- The last `k` bytes of a character, with six binary digits of its number in each. -/
def followers (v : ℕ) : ℕ → List UInt8
  | 0 => []
  | k + 1 => UInt8.ofNat (v / 64 ^ k % 64 + 0x80) :: followers v k

theorem number_lt (c : Char) : c.val.toNat < 0x110000 := by
  rcases c.valid with h | h
  · exact Nat.lt_trans h (by decide)
  · exact h.2

theorem leader_lt (h : v < 0x110000) : leader v < 256 := by
  rw [leader, followerCount]
  split_ifs <;> simp only [mark] <;> omega

theorem utf8EncodeChar_eq (c : Char) :
    String.utf8EncodeChar c =
      UInt8.ofNat (leader c.val.toNat) :: followers c.val.toNat (followerCount c.val.toNat) := by
  have hlt := number_lt c
  unfold String.utf8EncodeChar
  generalize c.val.toNat = v at hlt
  simp only [leader, followerCount]
  split_ifs with hone htwo hthree
  · simp [mark, followers]
  · have hhigh : v / 64 % 32 = v / 64 := by omega
    simp [mark, followers, hhigh]
  · have hhigh : v / 4096 % 16 = v / 4096 := by omega
    simp [mark, followers, hhigh]
  · have hhigh : v / 262144 % 8 = v / 262144 := by omega
    simp [mark, followers, hhigh]

/-! ### The order of characters -/

theorem mod_lt_mod_of_div_eq {n : ℕ} (h : v < w) (hdiv : v / n = w / n) : v % n < w % n := by
  have hv := Nat.div_add_mod v n
  have hw := Nat.div_add_mod w n
  rw [hdiv] at hv
  omega

/-- Followers are compared like the numbers that they write. -/
theorem followers_append_lt (h : v % 64 ^ k < w % 64 ^ k) :
    followers v k ++ xs < followers w k ++ ys := by
  induction k with
  | zero => simp [Nat.mod_one] at h
  | succ k ih =>
    rw [followers, followers, List.cons_append, List.cons_append,
      ofNat_cons_lt_iff (by omega) (by omega)]
    rw [Nat.mod_pow_succ, Nat.mod_pow_succ] at h
    have hv := Nat.mod_lt v (Nat.pow_pos (n := k) (show 0 < 64 by decide))
    rcases Nat.lt_trichotomy (v / 64 ^ k % 64) (w / 64 ^ k % 64) with hlt | heq | hgt
    · exact .inl (by omega)
    · exact .inr ⟨by omega, ih (by rw [heq] at h; omega)⟩
    · -- a greater digit would make the number greater, whatever is behind it
      have hdigit := Nat.mul_le_mul_left (64 ^ k) hgt
      have hw := Nat.mod_lt w (Nat.pow_pos (n := k) (show 0 < 64 by decide))
      rw [Nat.mul_succ] at hdigit
      omega

/-- Of two characters the smaller has the smaller first byte, or the same and fewer behind it. -/
theorem leader_lt_or (h : v < w) :
    leader v < leader w ∨
      leader v = leader w ∧ followerCount v = followerCount w ∧
        v / 64 ^ followerCount v = w / 64 ^ followerCount v := by
  rw [leader, leader, followerCount, followerCount]
  split_ifs <;>
    simp only [mark, true_and, Nat.reduceEqDiff, false_and, and_false, or_false, Nat.reducePow] <;>
    omega

/-- Behind two different characters it does not matter what follows. -/
theorem utf8EncodeChar_append_lt {c d : Char} (h : c < d) (xs ys : List UInt8) :
    String.utf8EncodeChar c ++ xs < String.utf8EncodeChar d ++ ys := by
  have hlt : c.val.toNat < d.val.toNat := h
  rw [utf8EncodeChar_eq, utf8EncodeChar_eq, List.cons_append, List.cons_append,
    ofNat_cons_lt_iff (leader_lt (number_lt c)) (leader_lt (number_lt d))]
  refine (leader_lt_or hlt).imp_right fun ⟨hleader, hcount, hdiv⟩ ↦ ⟨hleader, ?_⟩
  rw [← hcount]
  exact followers_append_lt (mod_lt_mod_of_div_eq hlt hdiv)

/-! ### The order of texts -/

/-- The bytes of a text in UTF-8. -/
def bytesOf (s : String) : List UInt8 :=
  s.toUTF8.data.toList

theorem bytesOf_eq (s : String) : bytesOf s = s.toList.flatMap String.utf8EncodeChar := by
  have hbytes : s.toUTF8 = (s.toList.flatMap String.utf8EncodeChar).toByteArray := by
    conv_lhs => rw [← String.ofList_toList (s := s), String.toUTF8_eq_toByteArray]
    rfl
  rw [bytesOf, hbytes, List.data_toByteArray]

/-- A text that ends is before those that go on. -/
theorem nil_lt_utf8EncodeChar_append (c : Char) (xs : List UInt8) :
    [] < String.utf8EncodeChar c ++ xs := by
  rw [utf8EncodeChar_eq]
  exact List.nil_lt_cons _ _

theorem flatMap_utf8EncodeChar_lt {cs ds : List Char} (h : cs < ds) :
    cs.flatMap String.utf8EncodeChar < ds.flatMap String.utf8EncodeChar := by
  induction h with
  | nil => exact nil_lt_utf8EncodeChar_append _ _
  | rel hlt => exact utf8EncodeChar_append_lt hlt _ _
  | cons _ ih => exact List.append_left_lt ih

/-- Texts are ordered as their bytes are. -/
theorem lt_iff_bytesOf_lt (s t : String) : s < t ↔ bytesOf s < bytesOf t := by
  have hlt {s t : String} (h : s < t) : bytesOf s < bytesOf t := by
    rw [bytesOf_eq, bytesOf_eq]
    exact flatMap_utf8EncodeChar_lt (String.lt_iff_toList_lt.1 h)
  refine ⟨hlt, fun h ↦ ?_⟩
  rcases lt_trichotomy s t with hst | rfl | hts
  · exact hst
  · exact absurd h (List.lt_irrefl _)
  · exact absurd (hlt hts) (List.lt_asymm h)

end DeferredLog.Text
