import VariantSearch.Text.Utf8

namespace VariantSearch.Text.Utf8

theorem cons_lt_cons_of_lt {m n : Nat} (h : m < n) (hn : n < 256) (x y : List UInt8) :
    m.toUInt8 :: x < n.toUInt8 :: y := by
  refine List.cons_lt_cons_iff.2 (Or.inl ?_)
  change m % 256 < n % 256
  omega

theorem cons_lt_cons_of_le {m n : Nat} (h : m ≤ n) (hn : n < 256) {x y : List UInt8}
    (hxy : m = n → x < y) : m.toUInt8 :: x < n.toUInt8 :: y := by
  rcases Nat.lt_or_eq_of_le h with hlt | heq
  · exact cons_lt_cons_of_lt hlt hn x y
  · subst heq
    exact List.cons_lt_cons_iff.2 (Or.inr ⟨rfl, hxy rfl⟩)

theorem toNat_lt (c : Char) : c.toNat < 0x110000 := by
  have hc : c.toNat < 0xD800 ∨ (0xDFFF < c.toNat ∧ c.toNat < 0x110000) := c.valid
  omega

/-- The bytes of two characters differ before either of them ends, and in the order of the
characters. -/
theorem encodeChar_append_lt {c d : Char} (h : c < d) (x y : List UInt8) :
    encodeChar c ++ x < encodeChar d ++ y := by
  have hlt : c.toNat < d.toNat := h
  have hd := toNat_lt d
  unfold encodeChar
  dsimp only
  generalize c.toNat = m at hlt
  generalize d.toNat = n at hlt hd
  -- A character with fewer bytes has a smaller first byte; otherwise the first difference counts.
  by_cases hm1 : m < 0x80
  · rw [if_pos hm1]
    by_cases hn1 : n < 0x80
    · rw [if_pos hn1]
      exact cons_lt_cons_of_lt hlt (by omega) _ _
    · rw [if_neg hn1]
      split
      · exact cons_lt_cons_of_lt (by omega) (by omega) _ _
      · split <;> exact cons_lt_cons_of_lt (by omega) (by omega) _ _
  · rw [if_neg hm1, if_neg (show ¬ n < 0x80 by omega)]
    by_cases hm2 : m < 0x800
    · rw [if_pos hm2]
      by_cases hn2 : n < 0x800
      · rw [if_pos hn2]
        refine cons_lt_cons_of_le (by omega) (by omega) fun hfirst => ?_
        exact cons_lt_cons_of_lt (by omega) (by omega) _ _
      · rw [if_neg hn2]
        split <;> exact cons_lt_cons_of_lt (by omega) (by omega) _ _
    · rw [if_neg hm2, if_neg (show ¬ n < 0x800 by omega)]
      by_cases hm3 : m < 0x10000
      · rw [if_pos hm3]
        by_cases hn3 : n < 0x10000
        · rw [if_pos hn3]
          refine cons_lt_cons_of_le (by omega) (by omega) fun hfirst => ?_
          refine cons_lt_cons_of_le (by omega) (by omega) fun hsecond => ?_
          exact cons_lt_cons_of_lt (by omega) (by omega) _ _
        · rw [if_neg hn3]
          exact cons_lt_cons_of_lt (by omega) (by omega) _ _
      · rw [if_neg hm3, if_neg (show ¬ n < 0x10000 by omega)]
        refine cons_lt_cons_of_le (by omega) (by omega) fun hfirst => ?_
        refine cons_lt_cons_of_le (by omega) (by omega) fun hsecond => ?_
        refine cons_lt_cons_of_le (by omega) (by omega) fun hthird => ?_
        exact cons_lt_cons_of_lt (by omega) (by omega) _ _

theorem encodeChar_ne_nil (c : Char) : encodeChar c ≠ [] := by
  unfold encodeChar
  dsimp only
  repeat' split
  all_goals exact List.cons_ne_nil _ _

theorem encode_lt_encode {a b : List Char} (h : a < b) : encode a < encode b := by
  induction a generalizing b with
  | nil =>
    cases b with
    | nil => exact absurd h (List.lt_irrefl [])
    | cons d rest =>
      obtain ⟨byte, more, hbytes⟩ := List.exists_cons_of_ne_nil (encodeChar_ne_nil d)
      simp only [encode, List.flatMap_nil, List.flatMap_cons, hbytes, List.cons_append]
      exact List.nil_lt_cons byte _
  | cons c rest ih =>
    cases b with
    | nil => exact absurd h (List.not_lt_nil _)
    | cons d more =>
      simp only [encode, List.flatMap_cons]
      rcases List.cons_lt_cons_iff.1 h with hcd | ⟨rfl, hrest⟩
      · exact encodeChar_append_lt hcd _ _
      · exact List.append_left_lt (ih hrest)

/-- Texts in the order of code points are in the order of their bytes. -/
theorem ofString_lt_ofString {a b : String} (h : a < b) : ofString a < ofString b :=
  encode_lt_encode (String.lt_iff.1 h)

end VariantSearch.Text.Utf8
