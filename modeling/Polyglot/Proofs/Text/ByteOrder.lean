import Polyglot.Proofs.Text.Utf8

/-!
# The order of encoded text

Texts are ordered by their code points, from the left. UTF-8 keeps that order: comparing the bytes
of two texts decides as comparing the texts does (`encode_lt_encode_iff`). A character whose code
point is smaller comes first already at some byte of its own, whatever follows it
(`encodeChar_append_lt`), since its leading byte tells how many bytes there are and more bytes mean
a greater leading byte.
-/

namespace Polyglot.Text.Utf8

variable {m n : Nat} {s t : List UInt8}

/-- The first byte decides if it is smaller. -/
theorem cons_lt_cons_of_lt (isByte : n < 0x100) (smaller : m < n) :
    UInt8.ofNat m :: s < UInt8.ofNat n :: t := by
  refine List.cons_lt_cons_iff.mpr (.inl ?_)
  rw [UInt8.lt_iff_toNat_lt, toNat_ofNat (by omega), toNat_ofNat isByte]
  exact smaller

/-- If it may be equal, the bytes after it have to decide. -/
theorem cons_lt_cons_of_le (isByte : n < 0x100) (notGreater : m ≤ n) (later : m = n → s < t) :
    UInt8.ofNat m :: s < UInt8.ofNat n :: t := by
  obtain smaller | rfl := Nat.lt_or_eq_of_le notGreater
  · exact cons_lt_cons_of_lt isByte smaller
  · exact List.cons_lt_cons_iff.mpr (.inr ⟨rfl, later rfl⟩)

/-- The bytes of the smaller character come first, whatever follows either. -/
theorem encodeChar_append_lt {c d : Char} (smaller : c < d) (s t : List UInt8) :
    encodeChar c ++ s < encodeChar d ++ t := by
  have smaller : c.toNat < d.toNat := smaller
  have bound := codePoint_bounds d
  unfold encodeChar
  generalize c.toNat = m at smaller
  generalize d.toNat = n at smaller bound
  simp only
  -- the second character has no fewer bytes, and if it has more the leading bytes decide
  by_cases one : m < 0x80
  · rw [if_pos one]
    split
    · exact cons_lt_cons_of_lt (by omega) smaller
    · split
      · exact cons_lt_cons_of_lt (by omega) (by omega)
      · split <;> exact cons_lt_cons_of_lt (by omega) (by omega)
  rw [if_neg one, if_neg (by omega : ¬ n < 0x80)]
  by_cases two : m < 0x800
  · rw [if_pos two]
    split
    · refine cons_lt_cons_of_le (by omega) (by omega) fun same => ?_
      exact cons_lt_cons_of_lt (by omega) (by omega)
    · split <;> exact cons_lt_cons_of_lt (by omega) (by omega)
  rw [if_neg two, if_neg (by omega : ¬ n < 0x800)]
  by_cases three : m < 0x10000
  · rw [if_pos three]
    split
    · refine cons_lt_cons_of_le (by omega) (by omega) fun same => ?_
      refine cons_lt_cons_of_le (by omega) (by omega) fun same' => ?_
      exact cons_lt_cons_of_lt (by omega) (by omega)
    · exact cons_lt_cons_of_lt (by omega) (by omega)
  · rw [if_neg three, if_neg (by omega : ¬ n < 0x10000)]
    refine cons_lt_cons_of_le (by omega) (by omega) fun same => ?_
    refine cons_lt_cons_of_le (by omega) (by omega) fun same' => ?_
    refine cons_lt_cons_of_le (by omega) (by omega) fun same'' => ?_
    exact cons_lt_cons_of_lt (by omega) (by omega)

theorem encode_lt_encode {s t : List Char} (smaller : s < t) : encode s < encode t := by
  induction s generalizing t with
  | nil =>
    cases t with
    | nil => exact absurd smaller (List.lt_irrefl _)
    | cons d t =>
      cases bytes : encode (d :: t) with
      | nil =>
        rw [encode, List.flatMap_cons, List.append_eq_nil_iff] at bytes
        exact absurd bytes.1 (encodeChar_ne_nil d)
      | cons byte rest => exact List.nil_lt_cons byte rest
  | cons c s ih =>
    cases t with
    | nil => exact absurd smaller (List.not_lt_nil _)
    | cons d t =>
      rw [encode, encode, List.flatMap_cons, List.flatMap_cons]
      obtain first | ⟨rfl, later⟩ := List.cons_lt_cons_iff.mp smaller
      · exact encodeChar_append_lt first _ _
      · exact List.append_left_lt (ih later)

/-- **Order.** Texts compare as their bytes do. -/
theorem encode_lt_encode_iff {s t : List Char} : encode s < encode t ↔ s < t := by
  refine ⟨fun smaller => ?_, encode_lt_encode⟩
  obtain less | same | greater := Std.lt_trichotomy s t
  · exact less
  · rw [same] at smaller
    exact absurd smaller (List.lt_irrefl _)
  · exact absurd (encode_lt_encode greater) (List.lt_asymm smaller)

end Polyglot.Text.Utf8
