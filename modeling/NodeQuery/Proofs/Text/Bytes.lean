import NodeQuery.Proofs.Text.Order

/-! Texts as bytes. The longer the encoding of a character is, the greater is its first byte, and
encodings of one length are ordered as the characters are. So the order of texts, which goes by
their characters, is the order of their bytes. -/

namespace NodeQuery.Text

/-- The UTF-8 form of a text. -/
def bytes (text : String) : List UInt8 := text.toUTF8.data.toList

theorem bytes_ofList (text : List Char) :
    bytes (String.ofList text) = text.flatMap String.utf8EncodeChar := by
  unfold bytes String.toUTF8
  rw [String.toByteArray_ofList, List.utf8Encode, List.data_toByteArray]

theorem encoded_lt {left right : Char} (less : left < right) (lefts rights : List UInt8) :
    String.utf8EncodeChar left ++ lefts < String.utf8EncodeChar right ++ rights := by
  have codes : left.val.toNat < right.val.toNat := less
  have bound : right.val.toNat < 1114112 := by
    rcases right.valid with low | high
    · exact low.trans (by decide)
    · exact high.2
  -- Every byte after the first carries the next six bits of the code point.
  have sixBits (code : Nat) :
      code / 4096 = code / 64 / 64 ∧ code / 262144 = code / 64 / 64 / 64 := by omega
  simp only [String.utf8EncodeChar, sixBits left.val.toNat, sixBits right.val.toNat]
  split_ifs <;>
    simp only [List.cons_append, List.nil_append, List.cons_lt_cons_iff, UInt8.lt_iff_toNat_lt,
      ← UInt8.toNat_inj, UInt8.toNat_ofNat', Nat.reducePow] <;>
    omega

theorem flatMap_encoded_lt {left right : List Char} (less : left < right) :
    left.flatMap String.utf8EncodeChar < right.flatMap String.utf8EncodeChar := by
  induction less with
  | @nil char rest =>
    rw [List.flatMap_nil, List.flatMap_cons]
    cases encoded : String.utf8EncodeChar char with
    | nil => exact absurd encoded String.utf8EncodeChar_ne_nil
    | cons byte others => exact List.nil_lt_cons byte _
  | rel first => exact encoded_lt first _ _
  | cons _ ih => exact List.append_left_lt ih

/-- The order of texts is the order of their bytes. -/
theorem bytes_lt_iff {left right : String} : bytes left < bytes right ↔ left < right := by
  have grows {left right : String} (less : left < right) : bytes left < bytes right := by
    rw [← left.ofList_toList, ← right.ofList_toList, bytes_ofList, bytes_ofList]
    exact flatMap_encoded_lt (String.lt_iff_toList_lt.mp less)
  refine ⟨fun less => ?_, grows⟩
  rcases lt_trichotomy left right with below | same | above
  · exact below
  · exact absurd (same ▸ less) (List.lt_irrefl _)
  · exact absurd (grows above) (List.lt_asymm less)

/-- A character below 128 takes one byte. -/
theorem length_bytes_ofList {text : List Char} (plain : ∀ char ∈ text, char.toNat < 128) :
    (bytes (String.ofList text)).length = text.length := by
  rw [bytes_ofList, List.length_flatMap]
  have single : text.map (fun char => (String.utf8EncodeChar char).length) =
      text.map fun _ => 1 := by
    refine List.map_congr_left fun char member => ?_
    have short : char.val ≤ 127 :=
      UInt32.le_iff_toNat_le.mpr (Nat.le_of_lt_succ (plain char member))
    rw [String.length_utf8EncodeChar, Char.utf8Size_eq_one_iff.mpr short]
  rw [single, List.map_const', List.sum_replicate, smul_eq_mul, mul_one]

end NodeQuery.Text
