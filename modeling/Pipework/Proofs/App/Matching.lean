import Mathlib.Data.Set.Subsingleton
import Pipework.Proofs.App.Nesting
import Pipework.Proofs.Text.Slice

set_option autoImplicit false

/-!
# Matching a path against a mount

A mount matches a path whose head is the mount up to the case of the letters `A` to `Z`, every other
character being the same, if a segment of the path ends behind the head. The head is found on bytes:
it has as many of them as the mount. That is safe, since texts that are equal up to case have
equally many bytes, and since bytes equal to those of a text are cut off between characters only.

## Main definitions

* `Ascii.SameUpToCase` — two characters are equal, or the two cases of one letter.
* `Route.Splits` — a path in two parts, the first of which the mount matches.

## Main results

* `Route.remainderBytes_encode` — matching bytes never cuts a character and agrees with matching
  texts.
* `Route.remainder?_iff_splits` — a mount matches exactly the paths that split, in the one way in
  which they do.
-/

namespace Pipework

open String (utf8EncodeChar)

/-! ## Equality up to case -/

namespace Ascii

/-- Two characters are equal, or they are the two cases of one of the letters `A` to `Z`. -/
def SameUpToCase (c d : Char) : Prop :=
  c = d ∨ ∃ i < 26, c.toNat = 65 + i ∧ d.toNat = 97 + i ∨ c.toNat = 97 + i ∧ d.toNat = 65 + i

/-- The comparison of two letters decides whether they are the same up to case. -/
lemma sameLetter_iff {c d : Char} : sameLetter c d = true ↔ SameUpToCase c d := by
  rw [sameLetter, decide_eq_true_eq, SameUpToCase, ← Char.toNat_inj, ← Char.toNat_inj,
    toNat_toLower, toNat_toLower]
  constructor
  · intro h
    split_ifs at h with hc hd hd
    · exact .inl (by omega)
    · exact .inr ⟨c.toNat - 65, by omega, .inl (by omega)⟩
    · exact .inr ⟨d.toNat - 65, by omega, .inr (by omega)⟩
    · exact .inl h
  · rintro (h | ⟨i, hi, ⟨hc, hd⟩ | ⟨hc, hd⟩⟩)
    · rw [h]
    · rw [if_pos (by omega), if_neg (by omega)]
      omega
    · rw [if_neg (by omega), if_pos (by omega)]
      omega

/-- The comparison of two texts decides whether they are the same letter by letter, up to case. -/
lemma sameText_iff_forall₂ {cs ds : List Char} :
    sameText cs ds = true ↔ List.Forall₂ SameUpToCase cs ds := by
  induction cs generalizing ds with
  | nil => cases ds <;> simp [sameText]
  | cons c cs ih => cases ds <;> simp [sameText, sameLetter_iff, ih]

end Ascii

namespace Route

/-! ## Matching bytes -/

/-- A mount comes off the front of a path that starts with it up to case. -/
lemma strip?_eq_some_iff {mount cs rest : List Char} :
    strip? mount cs = some rest ↔
      ∃ head, cs = head ++ rest ∧ Ascii.sameText mount head = true := by
  refine ⟨exists_append_of_strip?, ?_⟩
  rintro ⟨head, rfl, hsame⟩
  induction mount generalizing head with
  | nil =>
    cases head with
    | nil => rfl
    | cons c head => cases hsame
  | cons m mount ih =>
    cases head with
    | nil => cases hsame
    | cons c head =>
      obtain ⟨hm, hsame⟩ := Bool.and_eq_true_iff.1 hsame
      exact (if_pos hm).trans (ih head hsame)

/-- The bytes of a text tell whether a segment ends here. -/
lemma isSegmentEnd_flatMap (cs : List Char) :
    ((cs.flatMap utf8EncodeChar).isEmpty || (cs.flatMap utf8EncodeChar).head? = some 0x2F) =
      isSegmentEnd cs := by
  cases cs with
  | nil => rfl
  | cons c cs =>
    obtain ⟨b, tail, hc, -, -⟩ := Utf8.exists_utf8EncodeChar c
    have hslash : b = 0x2F ↔ c = '/' := by
      by_cases h : c.toNat ≤ 127
      · rw [Utf8.utf8EncodeChar_of_le h] at hc
        obtain rfl := (List.cons.inj hc).1
        rw [← UInt8.toNat_inj, ← Char.toNat_inj,
          UInt8.toNat_ofNat_of_lt' (Nat.lt_of_le_of_lt h (by decide))]
        rfl
      · have hb := Utf8.le_of_mem_utf8EncodeChar h b (by simp [hc])
        constructor <;> rintro rfl
        · cases Nat.not_le.2 (by decide) hb
        · cases h (by decide)
    simp [hc, isSegmentEnd, hslash]

/-- What is left of a path has been cut off at a boundary. -/
lemma isBoundary_of_strip? {mount cs rest : List Char} (h : strip? mount cs = some rest) :
    Utf8.isBoundary (cs.flatMap utf8EncodeChar) (mount.flatMap utf8EncodeChar).length = true := by
  obtain ⟨head, rfl, hsame⟩ := strip?_eq_some_iff.1 h
  rw [Utf8.length_flatMap_of_sameText hsame]
  exact Utf8.isBoundary_append head rest

/-- Behind a head with as many bytes as the mount, the head decides. -/
lemma strip?_append_of_length {mount head rest : List Char}
    (hlength : (head.flatMap utf8EncodeChar).length = (mount.flatMap utf8EncodeChar).length) :
    strip? mount (head ++ rest) = if Ascii.sameText head mount then some rest else none := by
  have hcomm : Ascii.sameText head mount = Ascii.sameText mount head := by
    rw [Bool.eq_iff_iff, Ascii.sameText_iff, Ascii.sameText_iff, eq_comm]
  rw [hcomm]
  split
  · next hsame => exact strip?_eq_some_iff.2 ⟨head, rfl, hsame⟩
  · next hsame =>
    refine Option.eq_none_iff_forall_ne_some.2 fun rest' h => hsame ?_
    obtain ⟨head', happend, hsame'⟩ := strip?_eq_some_iff.1 h
    have hlength' := hlength.trans (Utf8.length_flatMap_of_sameText hsame')
    rwa [(Utf8.append_inj_of_length happend hlength').1]

/-- Matching the bytes of a path never cuts it inside a character, and gives the bytes of what
matching the text gives. -/
lemma remainderBytes_encode (mount path : String) :
    remainderBytes (Utf8.encode mount) (Utf8.encode path) =
      .ok ((remainder? mount path).map Utf8.encode) := by
  rw [Utf8.encode_eq_flatMap mount, Utf8.encode_eq_flatMap path]
  by_cases h : Utf8.isBoundary (path.toList.flatMap utf8EncodeChar)
      (mount.toList.flatMap utf8EncodeChar).length = true
  · obtain ⟨head, rest, hpath, hlength⟩ := Utf8.isBoundary_flatMap_iff.1 h
    rw [hpath] at h
    have hbytes : (head ++ rest).flatMap utf8EncodeChar =
        head.flatMap utf8EncodeChar ++ rest.flatMap utf8EncodeChar := List.flatMap_append
    have hfront : Utf8.front? ((head ++ rest).flatMap utf8EncodeChar)
        (mount.toList.flatMap utf8EncodeChar).length = some (head.flatMap utf8EncodeChar) := by
      rw [Utf8.front?, if_pos h, hbytes, List.take_left' hlength]
    have hback : Utf8.back ((head ++ rest).flatMap utf8EncodeChar)
        (mount.toList.flatMap utf8EncodeChar).length = .ok (rest.flatMap utf8EncodeChar) := by
      rw [Utf8.back, if_pos h, hbytes, List.drop_left' hlength]
    simp only [remainder?, remainderBytes, hpath, hfront, hback, Utf8.sameBytes_flatMap,
      strip?_append_of_length hlength, Except.map, isSegmentEnd_flatMap]
    split
    · rw [Option.bind_some]
      split <;> simp [Utf8.encode_eq_flatMap]
    · rfl
  · -- the path cannot be cut behind as many bytes as the mount has
    have hnone : remainder? mount path = none := by
      refine Option.eq_none_iff_forall_ne_some.2 fun rest hrest => h ?_
      exact isBoundary_of_strip? (remainder?_eq_some_iff.1 hrest).1
    rw [remainderBytes, Utf8.front?, if_neg h, hnone]
    rfl

/-! ## Splits -/

/-- A path is put together from a head, which is the mount up to the case of the letters `A` to `Z`,
and a rest in front of which a segment ends. -/
structure Splits (mount path head rest : String) : Prop where
  path_eq : path = head ++ rest
  same : List.Forall₂ Ascii.SameUpToCase mount.toList head.toList
  ends : rest = "" ∨ ∃ more, rest = "/" ++ more

/-- A segment ends in front of a slash and at the end. -/
lemma isSegmentEnd_iff {s : String} :
    isSegmentEnd s.toList = true ↔ s = "" ∨ ∃ more, s = "/" ++ more := by
  constructor
  · intro h
    cases hs : s.toList with
    | nil => exact .inl (String.toList_eq_nil_iff.1 hs)
    | cons c cs =>
      rw [hs] at h
      obtain rfl : c = '/' := of_decide_eq_true h
      refine .inr ⟨String.ofList cs, String.toList_inj.1 ?_⟩
      simp [hs, String.toList_append]
  · rintro (rfl | ⟨more, rfl⟩)
    · rfl
    · rw [String.toList_append]
      rfl

/-- A mount matches exactly the paths that split, and gives the rest. -/
lemma remainder?_eq_some_iff_splits {mount path rest : String} :
    remainder? mount path = some rest ↔ ∃ head, Splits mount path head rest := by
  rw [remainder?_eq_some_iff, strip?_eq_some_iff, isSegmentEnd_iff]
  constructor
  · rintro ⟨⟨head, happend, hsame⟩, hends⟩
    refine ⟨String.ofList head, ?_, ?_, hends⟩
    · rw [← String.toList_inj, happend, String.toList_append, String.toList_ofList]
    · rwa [String.toList_ofList, ← Ascii.sameText_iff_forall₂]
  · rintro ⟨head, rfl, hsame, hends⟩
    exact ⟨⟨head.toList, String.toList_append, Ascii.sameText_iff_forall₂.2 hsame⟩, hends⟩

/-- There is at most one split. -/
lemma Splits.unique {mount path head rest head' rest' : String}
    (h : Splits mount path head rest) (h' : Splits mount path head' rest') :
    head = head' ∧ rest = rest' := by
  have happend : head.toList ++ rest.toList = head'.toList ++ rest'.toList := by
    rw [← String.toList_append, ← String.toList_append, ← h.path_eq, ← h'.path_eq]
  have hlength := h.same.length_eq.symm.trans h'.same.length_eq
  obtain ⟨hhead, hrest⟩ := List.append_inj happend hlength
  exact ⟨String.toList_inj.1 hhead, String.toList_inj.1 hrest⟩

/-- **Matching.** A mount matches a path with a certain rest exactly if the path splits into a head,
which is the mount up to the case of the letters `A` to `Z`, and that rest, which is empty or starts
with a slash. A path splits in at most one way, and if it does not split, nothing is matched. The
bytes of the path are never cut inside a character, and what is found in them is the same.

**Proof sketch.** On characters the head is taken off one by one (`strip?_eq_some_iff`). On bytes, a
head equal to the mount up to case has as many bytes as the mount, so the cut is made behind it
(`isBoundary_of_strip?`); and a cut which can be made at all is between two characters
(`Utf8.isBoundary_flatMap_iff`), so that comparing the bytes in front of it is comparing the
characters (`Utf8.sameBytes_flatMap`). -/
theorem remainder?_iff_splits (mount path : String) :
    (∀ rest, remainder? mount path = some rest ↔ ∃ head, Splits mount path head rest) ∧
    {split : String × String | Splits mount path split.1 split.2}.Subsingleton ∧
    (remainder? mount path = none ↔ ¬∃ head rest, Splits mount path head rest) ∧
    remainderBytes (Utf8.encode mount) (Utf8.encode path) =
      .ok ((remainder? mount path).map Utf8.encode) := by
  refine ⟨fun _ => remainder?_eq_some_iff_splits, ?_, ?_, remainderBytes_encode mount path⟩
  · rintro ⟨head, rest⟩ h ⟨head', rest'⟩ h'
    obtain ⟨rfl, rfl⟩ := Splits.unique h h'
    rfl
  · rw [Option.eq_none_iff_forall_ne_some]
    constructor
    · rintro hnone ⟨head, rest, h⟩
      exact hnone rest (remainder?_eq_some_iff_splits.2 ⟨head, h⟩)
    · intro hnone rest hrest
      obtain ⟨head, h⟩ := remainder?_eq_some_iff_splits.1 hrest
      exact hnone ⟨head, rest, h⟩

/-- The case of a letter makes no difference, but that of an accented letter does; a mount that ends
inside a segment does not match, nor one that ends inside the bytes of a character. -/
example : remainder? "/café" "/CAFé/x" = some "/x" ∧ remainder? "/café" "/CAFÉ/x" = none ∧
    remainder? "/caf" "/cafe" = none ∧
    remainderBytes [0x2F, 0x63, 0x61] [0x2F, 0x63, 0xC3, 0xA9] = .ok none := by
  decide

end Route

end Pipework
