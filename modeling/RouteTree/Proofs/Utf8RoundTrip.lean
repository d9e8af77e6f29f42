import RouteTree.Text.Utf8

/-!
# Characters and their octets

The octets of a character are decoded to that character, whatever follows them: the lead
says how many continuation octets there are, and these carry six bits each. So every
text is read back from its octets.
-/

namespace RouteTree.Utf8

/-- Octets lie between others as their numbers do. -/
theorem within_iff {low high b : UInt8} :
    (decide (low ≤ b) && decide (b ≤ high)) = true ↔
      low.toNat ≤ b.toNat ∧ b.toNat ≤ high.toNat := by
  rw [Bool.and_eq_true, decide_eq_true_eq, decide_eq_true_eq, UInt8.le_iff_toNat_le,
    UInt8.le_iff_toNat_le]

theorem toNat_octet {n : Nat} (h : n < 256) : (UInt8.ofNat n).toNat = n := Nat.mod_eq_of_lt h

theorem isContinuation_octet (v : Nat) :
    isContinuation (UInt8.ofNat (v % 64 + 0x80)) = true := by
  rw [isContinuation, within_iff, toNat_octet (by omega)]
  simp only [UInt8.reduceToNat]
  omega

theorem payload_octet (v : Nat) : payload (UInt8.ofNat (v % 64 + 0x80)) = v % 64 := by
  rw [payload, toNat_octet (by omega)]
  omega

/-- The second octet of three is one that no overlong form and no surrogate has. -/
theorem secondOfThree_octets {v : Nat} (hlow : 0x7FF < v) (hhigh : v ≤ 0xFFFF)
    (hvalid : v < 0xD800 ∨ 0xDFFF < v) :
    secondOfThree (UInt8.ofNat (v / 4096 % 16 + 0xE0)) (UInt8.ofNat (v / 64 % 64 + 0x80)) =
      true := by
  have hlead : (UInt8.ofNat (v / 4096 % 16 + 0xE0)).toNat = v / 4096 % 16 + 0xE0 :=
    toNat_octet (by omega)
  have hsecond : (UInt8.ofNat (v / 64 % 64 + 0x80)).toNat = v / 64 % 64 + 0x80 :=
    toNat_octet (by omega)
  unfold secondOfThree
  split
  · next h =>
    rw [within_iff, hsecond]
    simp only [← UInt8.toNat_inj, UInt8.reduceToNat, hlead] at h ⊢
    omega
  · split
    · next h =>
      rw [within_iff, hsecond]
      simp only [← UInt8.toNat_inj, UInt8.reduceToNat, hlead] at h ⊢
      omega
    · exact isContinuation_octet _

/-- The second octet of four is one that no overlong form and nothing beyond the last
code point has. -/
theorem secondOfFour_octets {v : Nat} (hlow : 0xFFFF < v) (hhigh : v < 0x110000) :
    secondOfFour (UInt8.ofNat (v / 262144 % 8 + 0xF0)) (UInt8.ofNat (v / 4096 % 64 + 0x80)) =
      true := by
  have hlead : (UInt8.ofNat (v / 262144 % 8 + 0xF0)).toNat = v / 262144 % 8 + 0xF0 :=
    toNat_octet (by omega)
  have hsecond : (UInt8.ofNat (v / 4096 % 64 + 0x80)).toNat = v / 4096 % 64 + 0x80 :=
    toNat_octet (by omega)
  unfold secondOfFour
  split
  · next h =>
    rw [within_iff, hsecond]
    simp only [← UInt8.toNat_inj, UInt8.reduceToNat, hlead] at h ⊢
    omega
  · split
    · next h =>
      rw [within_iff, hsecond]
      simp only [← UInt8.toNat_inj, UInt8.reduceToNat, hlead] at h ⊢
      omega
    · exact isContinuation_octet _

/-! ## One character -/

theorem decodeChar?_one {v : Nat} (hhigh : v ≤ 0x7F) (rest : Bytes) :
    decodeChar? (UInt8.ofNat v :: rest) = some (Char.ofNat v, rest) := by
  have hlead : (UInt8.ofNat v).toNat = v := toNat_octet (by omega)
  unfold decodeChar?
  simp only [UInt8.lt_iff_toNat_lt, hlead, UInt8.reduceToNat]
  rw [if_pos (by omega)]

theorem decodeChar?_two {v : Nat} (hlow : 0x7F < v) (hhigh : v ≤ 0x7FF) (rest : Bytes) :
    decodeChar? (UInt8.ofNat (v / 64 % 32 + 0xC0) :: UInt8.ofNat (v % 64 + 0x80) :: rest) =
      some (Char.ofNat v, rest) := by
  have hlead : (UInt8.ofNat (v / 64 % 32 + 0xC0)).toNat = v / 64 % 32 + 0xC0 :=
    toNat_octet (by omega)
  have hvalue : (v / 64 % 32 + 0xC0) % 32 * 64 + v % 64 = v := by omega
  unfold decodeChar?
  simp only [within_iff, UInt8.lt_iff_toNat_lt, hlead, UInt8.reduceToNat, isContinuation_octet,
    payload_octet, hvalue, if_true]
  rw [if_neg (by omega), if_pos (by omega)]

theorem decodeChar?_three {v : Nat} (hlow : 0x7FF < v) (hhigh : v ≤ 0xFFFF)
    (hvalid : v < 0xD800 ∨ 0xDFFF < v) (rest : Bytes) :
    decodeChar? (UInt8.ofNat (v / 4096 % 16 + 0xE0) :: UInt8.ofNat (v / 64 % 64 + 0x80) ::
      UInt8.ofNat (v % 64 + 0x80) :: rest) = some (Char.ofNat v, rest) := by
  have hlead : (UInt8.ofNat (v / 4096 % 16 + 0xE0)).toNat = v / 4096 % 16 + 0xE0 :=
    toNat_octet (by omega)
  have hvalue : (v / 4096 % 16 + 0xE0) % 16 * 4096 + v / 64 % 64 * 64 + v % 64 = v := by omega
  unfold decodeChar?
  simp only [within_iff, UInt8.lt_iff_toNat_lt, hlead, UInt8.reduceToNat, isContinuation_octet,
    secondOfThree_octets hlow hhigh hvalid, payload_octet, hvalue, Bool.and_self, if_true]
  rw [if_neg (by omega), if_neg (by omega), if_pos (by omega)]

theorem decodeChar?_four {v : Nat} (hlow : 0xFFFF < v) (hhigh : v < 0x110000) (rest : Bytes) :
    decodeChar? (UInt8.ofNat (v / 262144 % 8 + 0xF0) :: UInt8.ofNat (v / 4096 % 64 + 0x80) ::
      UInt8.ofNat (v / 64 % 64 + 0x80) :: UInt8.ofNat (v % 64 + 0x80) :: rest) =
        some (Char.ofNat v, rest) := by
  have hlead : (UInt8.ofNat (v / 262144 % 8 + 0xF0)).toNat = v / 262144 % 8 + 0xF0 :=
    toNat_octet (by omega)
  have hvalue : (v / 262144 % 8 + 0xF0) % 8 * 262144 + v / 4096 % 64 * 4096 +
      v / 64 % 64 * 64 + v % 64 = v := by omega
  unfold decodeChar?
  simp only [within_iff, UInt8.lt_iff_toNat_lt, hlead, UInt8.reduceToNat, isContinuation_octet,
    secondOfFour_octets hlow hhigh, payload_octet, hvalue, Bool.and_self, if_true]
  rw [if_neg (by omega), if_neg (by omega), if_neg (by omega), if_pos (by omega)]

/-- A character is decoded from its octets. -/
theorem decodeChar?_utf8EncodeChar (c : Char) (rest : Bytes) :
    decodeChar? (String.utf8EncodeChar c ++ rest) = some (c, rest) := by
  have hvalid : c.toNat < 0xD800 ∨ 0xDFFF < c.toNat ∧ c.toNat < 0x110000 := c.valid
  have hchar : some (Char.ofNat c.val.toNat, rest) = some (c, rest) :=
    congrArg (fun d => some (d, rest)) (Char.ofNat_toNat c)
  unfold String.utf8EncodeChar
  simp only
  split
  · next hone => exact (decodeChar?_one hone rest).trans hchar
  · next hone =>
    split
    · next htwo => exact (decodeChar?_two (Nat.lt_of_not_le hone) htwo rest).trans hchar
    · next htwo =>
      split
      · next hthree =>
        have hsurrogate := hvalid.imp_right And.left
        exact (decodeChar?_three (Nat.lt_of_not_le htwo) hthree hsurrogate rest).trans hchar
      · next hthree =>
        have hlast : c.toNat < 0x110000 := by omega
        exact (decodeChar?_four (Nat.lt_of_not_le hthree) hlast rest).trans hchar

/-- The first octet of a character is its code, or lies above all of ASCII. -/
theorem exists_utf8EncodeChar (c : Char) :
    ∃ b rest, String.utf8EncodeChar c = b :: rest ∧ (b.toNat < 0x80 → b.toNat = c.toNat) := by
  unfold String.utf8EncodeChar
  simp only
  split
  · next hone => exact ⟨_, _, rfl, fun _ => toNat_octet (by omega)⟩
  · split
    · refine ⟨_, _, rfl, fun hlead => ?_⟩
      rw [toNat_octet (by omega)] at hlead
      omega
    · split
      · refine ⟨_, _, rfl, fun hlead => ?_⟩
        rw [toNat_octet (by omega)] at hlead
        omega
      · refine ⟨_, _, rfl, fun hlead => ?_⟩
        rw [toNat_octet (by omega)] at hlead
        omega

/-- A continuation octet starts no character. -/
theorem not_isContinuation_of_decodeChar? {b : UInt8} {rest : Bytes} {read : Char × Bytes}
    (h : decodeChar? (b :: rest) = some read) : isContinuation b = false := by
  rw [Bool.eq_false_iff]
  intro hb
  unfold isContinuation at hb
  simp only [within_iff, UInt8.reduceToNat] at hb
  unfold decodeChar? at h
  simp only [within_iff, UInt8.lt_iff_toNat_lt, UInt8.reduceToNat] at h
  rw [if_neg (by omega), if_neg (by omega), if_neg (by omega), if_neg (by omega)] at h
  cases h

/-! ## Texts -/

theorem encode_cons (c : Char) (cs : List Char) :
    encode (c :: cs) = String.utf8EncodeChar c ++ encode cs := List.flatMap_cons

theorem encode_singleton (c : Char) : encode [c] = String.utf8EncodeChar c :=
  List.flatMap_singleton _ c

theorem encode_append (cs ds : List Char) : encode (cs ++ ds) = encode cs ++ encode ds :=
  List.flatMap_append

/-- What is made of elements, at least one of each, has no fewer elements. -/
theorem length_le_length_flatMap {α β : Type} {f : α → List β} (h : ∀ a, f a ≠ []) (l : List α) :
    l.length ≤ (l.flatMap f).length := by
  induction l with
  | nil => exact Nat.le_refl 0
  | cons a l ih =>
      have hfirst : 0 < (f a).length := List.length_pos_iff.mpr (h a)
      rw [List.flatMap_cons, List.length_append, List.length_cons]
      omega

theorem length_le_length_encode (cs : List Char) : cs.length ≤ (encode cs).length :=
  length_le_length_flatMap (fun _ => String.utf8EncodeChar_ne_nil) cs

/-- Characters are decoded from their octets, one after the other. -/
theorem decode_encode (cs : List Char) : decode (encode cs) = .ok cs := by
  induction cs with
  | nil =>
      unfold decode
      rfl
  | cons c cs ih =>
      have hfirst := decodeChar?_utf8EncodeChar c (encode cs)
      have hsome : (encode (c :: cs)).isEmpty = false := by
        rw [encode_cons]
        simp [String.utf8EncodeChar_ne_nil]
      unfold decode
      rw [hsome, if_neg Bool.false_ne_true]
      split
      · next hnone => cases hnone.symm.trans hfirst
      · next d rest hread =>
        cases hread.symm.trans hfirst
        rw [ih]

/-- A text is read from its octets. -/
theorem toString?_ofString (text : String) : toString? (ofString text) = some text := by
  rw [toString?, ofString, decode_encode]
  simp only [String.ofList_toList]

end RouteTree.Utf8
