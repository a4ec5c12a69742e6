import Mathlib.Tactic.SplitIfs
/-!
# Texts in the order of their octets

Texts are compared character by character. Octet by octet they compare alike: the encoding of a character
is less than that of a greater one at the first octet where they differ, and neither starts the other.
-/
namespace GatewaySync.Text

def octets (s : String) : List UInt8 := s.toUTF8.data.toList

theorem octets_eq (s : String) : octets s = s.toList.flatMap String.utf8EncodeChar := by
  have encoded : s.toUTF8 = (s.toList.flatMap String.utf8EncodeChar).toByteArray :=
    (String.utf8Encode_toList (b := s)).symm
  rw [octets, encoded, List.data_toByteArray]

theorem toNat_lt (c : Char) : c.toNat < 0x110000 := by
  rcases c.valid with low | high
  · have low : c.toNat < 0xD800 := low
    omega
  · exact high.2

theorem digits_lt {v w : Nat} (h : v < w) : v / 64 < w / 64 ∨ v / 64 = w / 64 ∧ v % 64 < w % 64 := by
  omega

theorem encode_lt {c d : Char} (h : c < d) (xs ys : List UInt8) :
    String.utf8EncodeChar c ++ xs < String.utf8EncodeChar d ++ ys := by
  have less : c.val.toNat < d.val.toNat := h
  have bound : d.val.toNat < 0x110000 := toNat_lt d
  unfold String.utf8EncodeChar
  generalize c.val.toNat = v at less
  generalize d.val.toNat = w at less bound
  have fourth := digits_lt less
  have third := @digits_lt (v / 64) (w / 64)
  have second := @digits_lt (v / 4096) (w / 4096)
  rw [Nat.div_div_eq_div_mul, Nat.div_div_eq_div_mul] at second third
  have continued (n : Nat) : (n % 64 + 128) % 2 ^ 8 = n % 64 + 128 := by omega
  have leading : (v / 262144 % 8 + 240) % 2 ^ 8 = v / 262144 + 240 := by omega
  have leading' : (w / 262144 % 8 + 240) % 2 ^ 8 = w / 262144 + 240 := by omega
  dsimp only
  split_ifs <;>
    simp only [List.cons_append, List.nil_append, List.cons_lt_cons_iff, UInt8.lt_iff_toNat_lt,
      ← UInt8.toNat_inj, UInt8.toNat_ofNat', continued, leading, leading'] <;>
    omega

theorem encode_nil_lt (c : Char) (ys : List UInt8) : [] < String.utf8EncodeChar c ++ ys := by
  cases encoded : String.utf8EncodeChar c with
  | nil => exact absurd encoded String.utf8EncodeChar_ne_nil
  | cons x xs => exact List.nil_lt_cons x (xs ++ ys)

theorem flatMap_encode_lt {cs ds : List Char} (h : cs < ds) :
    cs.flatMap String.utf8EncodeChar < ds.flatMap String.utf8EncodeChar := by
  induction cs generalizing ds with
  | nil =>
    cases ds with
    | nil => exact absurd h (List.lt_irrefl [])
    | cons d ds => exact encode_nil_lt d _
  | cons c cs ih =>
    cases ds with
    | nil => exact absurd h (List.not_lt_nil _)
    | cons d ds =>
      rw [List.flatMap_cons, List.flatMap_cons]
      rcases List.cons_lt_cons_iff.mp h with less | ⟨rfl, rest⟩
      · exact encode_lt less _ _
      · exact List.append_left_lt (ih rest)

theorem octets_lt_of_lt {s t : String} (h : s < t) : octets s < octets t := by
  rw [octets_eq, octets_eq]
  exact flatMap_encode_lt (String.lt_iff.mp h)

end GatewaySync.Text
