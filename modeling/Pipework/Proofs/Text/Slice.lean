import Pipework.Proofs.Text.ByteOrder
import Pipework.Text.Ascii
import Pipework.Text.Slice

set_option autoImplicit false

/-!
# Cutting texts by their bytes

The bytes of a text can be cut exactly between two of its characters: the first byte of a character
is told from the others. Cutting the bytes there is cutting the text. Comparing bytes up to case is
comparing characters up to case, since the letters `A` to `Z` are single bytes in either case and
the bytes of the characters above 127 are above 127 as well.

## Main results

* `Utf8.isBoundary_flatMap_iff` — a text can be cut exactly between characters.
* `Utf8.sameBytes_flatMap` — bytes are equal up to case exactly if the characters are.
* `Utf8.flatMap_inj` — a text is known from its bytes.
-/

namespace Pipework

/-! ## Lower case -/

/-- The number of a lower-cased character. -/
lemma Ascii.toNat_toLower (c : Char) :
    c.toLower.toNat = if 65 ≤ c.toNat ∧ c.toNat ≤ 90 then c.toNat + 32 else c.toNat := by
  unfold Char.toLower
  simp only [UInt32.le_iff_toNat_le, ge_iff_le, Char.toNat_val]
  split
  · next h =>
    have hupper : 65 ≤ c.toNat ∧ c.toNat ≤ 90 := h
    rw [if_pos hupper]
    change (c.val + ('a'.val - 'A'.val)).toNat = _
    simp
    omega
  · next h =>
    have hupper : ¬(65 ≤ c.toNat ∧ c.toNat ≤ 90) := h
    rw [if_neg hupper]

/-- Texts are the same up to case exactly if they are the same in small letters. -/
lemma Ascii.sameText_iff {cs ds : List Char} :
    sameText cs ds = true ↔ cs.map Char.toLower = ds.map Char.toLower := by
  induction cs generalizing ds with
  | nil => cases ds <;> simp [sameText]
  | cons c cs ih => cases ds <;> simp [sameText, sameLetter, ih]

namespace Utf8

open String (utf8EncodeChar)

/-! ## The bytes of a character -/

/-- A character starts with a byte that stands inside no character; all others behind it do. -/
lemma exists_utf8EncodeChar (c : Char) : ∃ b tail, utf8EncodeChar c = b :: tail ∧
    isTail b = false ∧ ∀ b' ∈ tail, isTail b' = true := by
  have hc := toNat_lt c
  simp only [utf8EncodeChar, Char.toNat_val]
  split_ifs <;> refine ⟨_, _, rfl, ?_, ?_⟩ <;>
    simp [isTail, UInt8.le_iff_toNat_le] <;> omega

/-- Up to 127 a character is the byte of its number. -/
lemma utf8EncodeChar_of_le {c : Char} (h : c.toNat ≤ 127) :
    utf8EncodeChar c = [UInt8.ofNat c.toNat] := if_pos h

/-- The bytes of a character above 127 are above 127. -/
lemma le_of_mem_utf8EncodeChar {c : Char} (h : ¬c.toNat ≤ 127) :
    ∀ b ∈ utf8EncodeChar c, 128 ≤ b.toNat := by
  have hc := toNat_lt c
  simp only [utf8EncodeChar, Char.toNat_val, if_neg h]
  split_ifs <;> simp <;> omega

/-- A byte above 127 has no case. -/
lemma lowerByte_of_le {b : UInt8} (h : 128 ≤ b.toNat) : lowerByte b = b := by
  refine if_neg fun hb => ?_
  have hz : b.toNat ≤ 90 :=
    UInt8.le_iff_toNat_le.1 (of_decide_eq_true (Bool.and_eq_true_iff.1 hb).2)
  omega

/-- Lower-casing a byte up to 127 on numbers. -/
lemma lowerByte_ofNat {n : Nat} (h : n ≤ 127) :
    lowerByte (UInt8.ofNat n) = UInt8.ofNat (if 65 ≤ n ∧ n ≤ 90 then n + 32 else n) := by
  have hbyte : (UInt8.ofNat n).toNat = n :=
    UInt8.toNat_ofNat_of_lt' (Nat.lt_of_le_of_lt h (by decide))
  have hupper : (0x41 ≤ UInt8.ofNat n ∧ UInt8.ofNat n ≤ 0x5A) ↔ (65 ≤ n ∧ n ≤ 90) := by
    rw [UInt8.le_iff_toNat_le, UInt8.le_iff_toNat_le, hbyte]
    rfl
  simp only [lowerByte, Bool.and_eq_true, decide_eq_true_eq, hupper]
  split
  · exact (UInt8.ofNat_add n 32).symm
  · rfl

/-- Lower-casing the bytes of a character is lower-casing the character. -/
lemma map_lowerByte_utf8EncodeChar (c : Char) :
    (utf8EncodeChar c).map lowerByte = utf8EncodeChar c.toLower := by
  by_cases h : c.toNat ≤ 127
  · have hlower : c.toLower.toNat ≤ 127 := by
      rw [Ascii.toNat_toLower]
      split <;> omega
    rw [utf8EncodeChar_of_le h, utf8EncodeChar_of_le hlower, List.map_singleton, lowerByte_ofNat h,
      Ascii.toNat_toLower]
  · have hlower : c.toLower = c := by
      rw [← Char.toNat_inj, Ascii.toNat_toLower]
      exact if_neg (by omega)
    rw [hlower]
    conv_rhs => rw [← List.map_id (utf8EncodeChar c)]
    exact List.map_congr_left fun b hb => lowerByte_of_le (le_of_mem_utf8EncodeChar h b hb)

/-! ## The bytes of a text -/

/-- A text is known from its bytes. -/
lemma flatMap_inj {cs ds : List Char} :
    cs.flatMap utf8EncodeChar = ds.flatMap utf8EncodeChar ↔ cs = ds := by
  refine ⟨fun h => ?_, congrArg _⟩
  rcases lt_trichotomy cs ds with hlt | heq | hgt
  · exact absurd (h ▸ flatMap_lt_flatMap hlt) (List.lt_irrefl _)
  · exact heq
  · exact absurd (h ▸ flatMap_lt_flatMap hgt) (List.lt_irrefl _)

/-- The bytes of a text in small letters are its bytes in small letters. -/
lemma map_lowerByte_flatMap (cs : List Char) :
    (cs.flatMap utf8EncodeChar).map lowerByte =
      (cs.map Char.toLower).flatMap utf8EncodeChar := by
  simp only [List.map_flatMap, List.flatMap_map, map_lowerByte_utf8EncodeChar]

/-- Bytes are equal up to case exactly if the characters are. -/
lemma sameBytes_flatMap (cs ds : List Char) :
    sameBytes (cs.flatMap utf8EncodeChar) (ds.flatMap utf8EncodeChar) = Ascii.sameText cs ds := by
  rw [Bool.eq_iff_iff, Ascii.sameText_iff, sameBytes, decide_eq_true_eq, map_lowerByte_flatMap,
    map_lowerByte_flatMap, flatMap_inj]

/-- Texts that are equal up to case have as many bytes as one another. -/
lemma length_flatMap_of_sameText {cs ds : List Char} (h : Ascii.sameText cs ds = true) :
    (cs.flatMap utf8EncodeChar).length = (ds.flatMap utf8EncodeChar).length := by
  rw [← sameBytes_flatMap, sameBytes, decide_eq_true_eq] at h
  simpa using congrArg List.length h

/-- Two beginnings of a text with as many bytes as one another are equal. -/
lemma append_inj_of_length {cs ds es fs : List Char} (h : cs ++ es = ds ++ fs)
    (hlength : (cs.flatMap utf8EncodeChar).length = (ds.flatMap utf8EncodeChar).length) :
    cs = ds ∧ es = fs := by
  have hbytes := congrArg (List.flatMap utf8EncodeChar) h
  rw [List.flatMap_append, List.flatMap_append] at hbytes
  obtain ⟨hfront, hback⟩ := List.append_inj hbytes hlength
  exact ⟨flatMap_inj.1 hfront, flatMap_inj.1 hback⟩

/-! ## Boundaries -/

/-- Between two characters a text can be cut. -/
lemma isBoundary_append (cs ds : List Char) :
    isBoundary ((cs ++ ds).flatMap utf8EncodeChar) (cs.flatMap utf8EncodeChar).length = true := by
  rw [List.flatMap_append]
  cases ds with
  | nil => simp [isBoundary]
  | cons d ds =>
    obtain ⟨b, tail, hd, hb, -⟩ := exists_utf8EncodeChar d
    simp [isBoundary, hd, hb]

/-- Inside a character a text cannot be cut. -/
lemma not_isBoundary_inside {c : Char} {n : Nat} (hpos : 0 < n)
    (hn : n < (utf8EncodeChar c).length) (l : Bytes) :
    isBoundary (utf8EncodeChar c ++ l) n = false := by
  obtain ⟨b, tail, hc, -, htail⟩ := exists_utf8EncodeChar c
  have hget : (utf8EncodeChar c ++ l)[n]? = some ((utf8EncodeChar c)[n]) := by
    rw [List.getElem?_append_left hn, List.getElem?_eq_getElem hn]
  have hmem : (utf8EncodeChar c)[n] ∈ tail := by
    obtain ⟨m, rfl⟩ := Nat.exists_eq_succ_of_ne_zero hpos.ne'
    simp only [hc, List.getElem_cons_succ]
    exact List.getElem_mem _
  simp [isBoundary, hget, htail _ hmem, hpos.ne']

/-- Behind a whole character the boundaries are those of what follows. -/
lemma isBoundary_drop {l m : Bytes} {n : Nat}
    (h : isBoundary (l ++ m) (l.length + n) = true) : n = 0 ∨ isBoundary m n = true := by
  by_cases hn : n = 0
  · exact .inl hn
  · refine .inr ?_
    have hget : (l ++ m)[l.length + n]? = m[n]? := by
      rw [List.getElem?_append_right (Nat.le_add_right _ _), Nat.add_sub_cancel_left]
    simpa [isBoundary, hget, hn] using h

/-- A text can be cut exactly between two of its characters. -/
lemma isBoundary_flatMap_iff {cs : List Char} {n : Nat} :
    isBoundary (cs.flatMap utf8EncodeChar) n = true ↔
      ∃ front back, cs = front ++ back ∧ (front.flatMap utf8EncodeChar).length = n := by
  constructor
  · intro h
    induction cs generalizing n with
    | nil =>
      have hn : n = 0 := by simpa [isBoundary] using h
      exact ⟨[], [], rfl, hn.symm⟩
    | cons c cs ih =>
      rw [List.flatMap_cons] at h
      obtain rfl | hpos := Nat.eq_zero_or_pos n
      · exact ⟨[], c :: cs, rfl, rfl⟩
      by_cases hn : n < (utf8EncodeChar c).length
      · rw [not_isBoundary_inside hpos hn] at h
        cases h
      · -- the cut is behind the first character
        obtain ⟨m, rfl⟩ := Nat.exists_eq_add_of_le (Nat.not_lt.1 hn)
        obtain ⟨front, back, rfl, hm⟩ : ∃ front back, cs = front ++ back ∧
            (front.flatMap utf8EncodeChar).length = m := by
          obtain rfl | hm := isBoundary_drop h
          · exact ⟨[], cs, rfl, rfl⟩
          · exact ih hm
        exact ⟨c :: front, back, rfl, by rw [List.flatMap_cons, List.length_append, hm]⟩
  · rintro ⟨front, back, rfl, rfl⟩
    exact isBoundary_append front back

end Utf8

end Pipework
