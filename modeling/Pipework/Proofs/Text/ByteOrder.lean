import Mathlib.Data.String.Basic
import Mathlib.Tactic.Common
import Pipework.Text.Utf8

set_option autoImplicit false

/-!
# The order of texts is the order of their bytes

Texts are compared character by character, and UTF-8 was made so that this is the same as comparing
their bytes: the leading byte of a character tells its width, wider characters come later, and among
characters of one width the bytes are the digits of the number, the highest ones first.

## Main results

* `Utf8.encode_eq_flatMap` — the bytes of a text are those of its characters.
* `Utf8.encode_lt_encode`, `Utf8.encode_le_encode` — texts are ordered like their bytes.
-/

namespace Pipework.Utf8

open String (utf8EncodeChar)

/-! ## The bytes of a text -/

/-- Reading the bytes one by one from a place on. -/
lemma toList_loop (bs : ByteArray) (i : Nat) (r : List UInt8) :
    ByteArray.toList.loop bs i r = r.reverse ++ bs.data.toList.drop i := by
  fun_induction ByteArray.toList.loop bs i r with
  | case1 i r hi ih =>
    have hlist : i < bs.data.toList.length := by
      rw [Array.length_toList]
      exact hi
    have hget : bs.get! i = bs.data.toList[i] := getElem!_pos bs.data i hi
    rw [ih, List.drop_eq_getElem_cons hlist, hget]
    simp
  | case2 i r hi =>
    have hlist : bs.data.toList.length ≤ i := by
      rw [Array.length_toList]
      exact Nat.not_lt.1 hi
    rw [List.drop_of_length_le hlist, List.append_nil]

/-- The list of the bytes is that of the array. -/
lemma toList_eq (bs : ByteArray) : bs.toList = bs.data.toList := by
  rw [ByteArray.toList, toList_loop]
  rfl

/-- The bytes of a text are those of its characters, one after the other. -/
lemma encode_eq_flatMap (s : String) : encode s = s.toList.flatMap utf8EncodeChar := by
  have hbytes : s.toUTF8 = (s.toList.flatMap utf8EncodeChar).toByteArray :=
    String.utf8Encode_toList.symm
  rw [encode, hbytes, toList_eq, List.toList_data_toByteArray]

/-- The numbers of characters end at seventeen times `2 ^ 16`. -/
lemma toNat_lt (c : Char) : c.toNat < 0x110000 := by
  rcases c.valid with hlow | ⟨-, hhigh⟩
  · exact lt_trans hlow (by decide)
  · exact hhigh

/-! ## The order -/

/-- A smaller character has smaller bytes, whatever comes behind them. -/
lemma utf8EncodeChar_append_lt {a b : Char} (h : a < b) (x y : Bytes) :
    utf8EncodeChar a ++ x < utf8EncodeChar b ++ y := by
  have hlt : a.val.toNat < b.val.toNat := h
  have hb : b.val.toNat < 0x110000 := toNat_lt b
  -- the bytes are the digits of the number to the base 64 behind the mark of the width
  have h₂ (n : Nat) : n / 4096 = n / 64 / 64 := (Nat.div_div_eq_div_mul n 64 64).symm
  have h₃ (n : Nat) : n / 262144 = n / 64 / 64 / 64 := by
    rw [Nat.div_div_eq_div_mul, Nat.div_div_eq_div_mul]
  simp only [utf8EncodeChar, h₂, h₃]
  split_ifs <;>
    simp only [List.cons_append, List.nil_append, List.cons_lt_cons_iff, UInt8.lt_iff_toNat_lt,
      ← UInt8.toNat_inj, UInt8.toNat_ofNat'] <;>
    omega

/-- Byte sequences with a common beginning compare like what comes behind it. -/
lemma append_lt_append_left_iff (l : Bytes) {m n : Bytes} : l ++ m < l ++ n ↔ m < n := by
  induction l with
  | nil => rfl
  | cons a l ih => simp [ih]

/-- The order of texts is kept by their bytes. -/
lemma flatMap_lt_flatMap {l m : List Char} (h : l < m) :
    l.flatMap utf8EncodeChar < m.flatMap utf8EncodeChar := by
  induction l generalizing m with
  | nil =>
    cases m with
    | nil => exact absurd h (List.not_lt_nil _)
    | cons b m =>
      obtain ⟨c, cs, hcs⟩ := List.exists_cons_of_ne_nil (String.utf8EncodeChar_ne_nil (c := b))
      rw [List.flatMap_nil, List.flatMap_cons, hcs]
      exact List.nil_lt_cons _ _
  | cons a l ih =>
    cases m with
    | nil => exact absurd h (List.not_lt_nil _)
    | cons b m =>
      rw [List.flatMap_cons, List.flatMap_cons]
      rcases List.cons_lt_cons_iff.1 h with hab | ⟨rfl, hlm⟩
      · exact utf8EncodeChar_append_lt hab _ _
      · exact (append_lt_append_left_iff _).2 (ih hlm)

/-- **Texts are ordered like their bytes.**

**Proof sketch.** A smaller text has smaller bytes: at the first place where the texts differ a
smaller character has smaller bytes, whatever follows (`utf8EncodeChar_append_lt`). The converse
holds because texts are linearly ordered. -/
theorem encode_lt_encode {s t : String} : encode s < encode t ↔ s < t := by
  have hmono {s t : String} (h : s < t) : encode s < encode t := by
    rw [encode_eq_flatMap, encode_eq_flatMap]
    exact flatMap_lt_flatMap (String.lt_iff_toList_lt.1 h)
  refine ⟨fun h => ?_, hmono⟩
  rcases lt_trichotomy s t with hst | rfl | hts
  · exact hst
  · exact absurd h (List.lt_irrefl _)
  · exact absurd (hmono hts) (List.lt_asymm h)

/-- Texts are ordered as their bytes are. -/
theorem encode_le_encode {s t : String} : encode s ≤ encode t ↔ s ≤ t := by
  rw [← List.not_lt, ← not_lt, encode_lt_encode]

end Pipework.Utf8
