import RouteTree.Json.Token
import RouteTree.Proofs.PlainOctets

/-!
# Reading back scalars

Numbers and strings are read back from the octets of their texts, and what follows them
is left over. An integer is written without leading zeros, so its digits are read as one
word. Of the characters of a string those that would end it or start an escape, and the
controls, are escaped; all others are read as they are.
-/

namespace RouteTree.Json

open Utf8

namespace Reader

/-- What may follow a value within a list or an object, or at the end of an input. -/
def Ends (rest : Bytes) : Prop := ∀ b ∈ rest.head?, b = 0x2C ∨ b = 0x5D ∨ b = 0x7D

theorem Ends.isDigit_eq_false {b : UInt8} {rest : Bytes} (h : Ends (b :: rest)) :
    isDigit b = false := by
  rcases h b rfl with rfl | rfl | rfl <;> decide

theorem literal_append (tail rest : Bytes) : literal tail (tail ++ rest) = .ok rest := by
  induction tail with
  | nil => rfl
  | cons b tail ih => rw [List.cons_append, literal, if_pos rfl, ih]

/-! ## Integers -/

theorem isDigit_of_mem_digitsOf {n : Nat} {c : Char} (h : c ∈ digitsOf n) : c.isDigit = true :=
  Nat.isDigit_of_mem_toDigits (by decide) (by decide) h

theorem toNat_lt_of_isDigit {c : Char} (h : c.isDigit = true) : c.toNat < 128 := by
  apply toNat_lt_of_isAlphanum
  rw [Char.isAlphanum, h, Bool.or_true]

/-- The octets of decimal digits. -/
theorem encode_digitsOf (n : Nat) :
    encode (digitsOf n) = (digitsOf n).map fun c => c.val.toUInt8 := by
  apply encode_of_isAscii
  intro c hc
  exact toNat_lt_of_isDigit (isDigit_of_mem_digitsOf hc)

theorem isDigit_octet {c : Char} (h : c.isDigit = true) :
    isDigit c.val.toUInt8 = true ∧ digitValue c.val.toUInt8 = c.toNat - 48 := by
  obtain ⟨hlow, hhigh⟩ : 48 ≤ c.toNat ∧ c.toNat ≤ 57 := by
    simpa [Char.isDigit, UInt32.le_iff_toNat_le] using h
  have hoctet : c.val.toUInt8.toNat = c.toNat := toNat_toUInt8 (by omega)
  rw [isDigit, within_iff, digitValue, hoctet]
  exact ⟨⟨hlow, hhigh⟩, rfl⟩

theorem isDigit_of_mem_encode {n : Nat} {b : UInt8} (h : b ∈ encode (digitsOf n)) :
    isDigit b = true := by
  rw [encode_digitsOf, List.mem_map] at h
  obtain ⟨c, hc, rfl⟩ := h
  exact (isDigit_octet (isDigit_of_mem_digitsOf hc)).1

/-- The digits of a number denote that number. -/
theorem ofDigits_digitsOf (n : Nat) :
    Decimal.ofDigits ((encode (digitsOf n)).map digitValue) = n := by
  have hvalues : (encode (digitsOf n)).map digitValue =
      (digitsOf n).map fun c => c.toNat - 48 := by
    rw [encode_digitsOf, List.map_map]
    apply List.map_congr_left
    intro c hc
    exact (isDigit_octet (isDigit_of_mem_digitsOf hc)).2
  rw [hvalues, Decimal.ofDigits, List.foldl_map]
  exact Nat.ofDigitChars_ten_toDigits

/-- Only zero is written with a zero in front. -/
theorem head?_digitsOf_ne {n : Nat} (h : n ≠ 0) : (digitsOf n).head? ≠ some '0' := by
  unfold digitsOf
  induction n using Nat.base_induction 10 (by decide) with
  | single m hm =>
      have hdigits : ∀ m < 10, m ≠ 0 → m.digitChar ≠ '0' := by decide
      rw [Nat.toDigits_of_lt_base hm]
      simpa using hdigits m hm h
  | digit m k hk hm ih =>
      rw [← Nat.toDigits_append_toDigits (by decide) hm hk,
        List.head?_append_of_ne_nil _ Nat.toDigits_ne_nil]
      exact ih (Nat.ne_of_gt hm)

/-- Further digits never make a number smaller. -/
theorem le_foldl_digits (digits : List Nat) (n : Nat) :
    n ≤ digits.foldl (fun n d => 10 * n + d) n := by
  induction digits generalizing n with
  | nil => exact Nat.le_refl n
  | cons d rest ih =>
      have hstep := ih (10 * n + d)
      rw [List.foldl_cons]
      omega

/-- Digits are gathered to the last if the number that they denote stays in bounds. -/
theorem gather_of_le {limit n : Nat} {digits : List Nat}
    (h : digits.foldl (fun n d => 10 * n + d) n ≤ limit) :
    Decimal.gather limit n digits = (digits.foldl (fun n d => 10 * n + d) n, []) := by
  induction digits generalizing n with
  | nil => rfl
  | cons d rest ih =>
      rw [List.foldl_cons] at h
      have hfits : 10 * n + d ≤ limit := Nat.le_trans (le_foldl_digits rest _) h
      rw [Decimal.gather, if_pos hfits, ih h, List.foldl_cons]

/-- Without fraction and exponent a word within bounds is an integer. -/
theorem afterInteger_of_ends {negative : Bool} {word : Nat} {rest : Bytes} (hrest : Ends rest)
    (hword : negative = true → word ≠ 0 ∧ word ≤ 0x8000000000000000) :
    afterInteger negative word rest =
      .ok (.integer (if negative then -(word : Int) else word), rest) := by
  have hplain : afterInteger negative word rest =
      if negative then
        if word = 0 ∨ 0x8000000000000000 < word then
          .ok (.float (-word.toUInt64.toFloat), rest)
        else .ok (.integer (-(word : Int)), rest)
      else .ok (.integer word, rest) := by
    unfold afterInteger
    split
    · next behind => exact absurd (hrest 0x2E rfl) (by decide)
    · next behind => exact absurd (hrest 0x65 rfl) (by decide)
    · next behind => exact absurd (hrest 0x45 rfl) (by decide)
    · rfl
  rw [hplain]
  cases negative with
  | false => rfl
  | true =>
      obtain ⟨hne, hle⟩ := hword rfl
      rw [if_pos rfl, if_neg (by omega)]
      rfl

/-- Digits end where something follows that is none. -/
theorem span_isDigit {digits rest : Bytes} (hdigits : ∀ b ∈ digits, isDigit b = true)
    (hrest : Ends rest) :
    (digits ++ rest).takeWhile isDigit = digits ∧ (digits ++ rest).dropWhile isDigit = rest := by
  rw [List.takeWhile_append_of_pos hdigits, List.dropWhile_append_of_pos hdigits]
  cases rest with
  | nil => simp
  | cons b rest => simp [hrest.isDigit_eq_false]

/-- The octets of a word begin with a digit, which is not zero unless the word is. -/
theorem exists_encode_digitsOf (word : Nat) :
    ∃ b behind, encode (digitsOf word) = b :: behind ∧ isDigit b = true ∧
      (word ≠ 0 → b ≠ 0x30) := by
  obtain ⟨c, cs, hdigits⟩ : ∃ c cs, digitsOf word = c :: cs :=
    List.exists_cons_of_ne_nil Nat.toDigits_ne_nil
  have hdigit : c.isDigit = true := isDigit_of_mem_digitsOf (hdigits ▸ List.mem_cons_self)
  refine ⟨c.val.toUInt8, cs.map fun c => c.val.toUInt8, ?_, (isDigit_octet hdigit).1, ?_⟩
  · rw [encode_digitsOf, hdigits, List.map_cons]
  · intro hne hoctet
    have hzero : c = '0' := by
      rw [← Char.toNat_inj, ← toNat_toUInt8 (toNat_lt_of_isDigit hdigit), hoctet]
      rfl
    apply head?_digitsOf_ne hne
    rw [hdigits, hzero, List.head?_cons]

/-- The digits of a word are read as that word. -/
theorem unsigned_digitsOf {negative : Bool} {word : Nat} {rest : Bytes} (hrest : Ends rest)
    (hword : word ≤ Decimal.wordLimit) :
    unsigned negative (encode (digitsOf word) ++ rest) = afterInteger negative word rest := by
  by_cases hzero : word = 0
  · subst hzero
    have hoctets : encode (digitsOf 0) = [0x30] := rfl
    rw [hoctets, List.singleton_append]
    cases rest with
    | nil => rfl
    | cons b rest =>
        rw [unsigned]
        simp only [hrest.isDigit_eq_false, Bool.false_eq_true, if_false]
  · obtain ⟨hdigits, hbehind⟩ := span_isDigit (fun _ => isDigit_of_mem_encode (n := word)) hrest
    have hgather : Decimal.gather Decimal.wordLimit 0 ((encode (digitsOf word)).map digitValue) =
        (word, []) := by
      have hvalue := ofDigits_digitsOf word
      rw [Decimal.ofDigits] at hvalue
      rw [gather_of_le (by rwa [hvalue]), hvalue]
    obtain ⟨b, behind, hoctets, hdigit, hfirst⟩ := exists_encode_digitsOf word
    rw [hoctets, List.cons_append] at hdigits hbehind
    rw [hoctets] at hgather
    rw [hoctets, List.cons_append]
    unfold unsigned
    split
    · next h => cases h
    · next h =>
      -- a zero in front would end the integer digits at once
      cases h
      exact absurd rfl (hfirst hzero)
    · next h =>
      cases h
      simp only [hdigit, if_true, hdigits, hbehind, hgather, List.isEmpty_nil]

/-- An integer that fits 64 bits is read back. -/
theorem number_integerText {n : Int} {rest : Bytes} (hfits : fitsWord n = true)
    (hrest : Ends rest) :
    number (encode (integerText n) ++ rest) = .ok (.integer n, rest) := by
  obtain ⟨hlow, hhigh⟩ : -0x8000000000000000 ≤ n ∧ n < 0x10000000000000000 := by
    simpa [fitsWord] using hfits
  have hword : n.natAbs ≤ Decimal.wordLimit := by
    rw [Decimal.wordLimit]
    omega
  unfold integerText
  split
  · next hnegative =>
    have hsign : encode ('-' :: digitsOf n.natAbs) = 0x2D :: encode (digitsOf n.natAbs) := rfl
    have hvalue : -(n.natAbs : Int) = n := by omega
    rw [hsign, List.cons_append, number, unsigned_digitsOf hrest hword,
      afterInteger_of_ends hrest (fun _ => by omega), if_pos rfl, hvalue]
  · next hpositive =>
    have hvalue : (n.natAbs : Int) = n := by omega
    have hunsigned : number (encode (digitsOf n.natAbs) ++ rest) =
        unsigned false (encode (digitsOf n.natAbs) ++ rest) := by
      unfold number
      split
      · next h =>
        obtain ⟨b, behind, hoctets, hdigit, -⟩ := exists_encode_digitsOf n.natAbs
        rw [hoctets] at h
        cases h
        exact absurd hdigit (by decide)
      · rfl
    rw [hunsigned, unsigned_digitsOf hrest hword,
      afterInteger_of_ends hrest (fun h => absurd h Bool.false_ne_true),
      if_neg Bool.false_ne_true, hvalue]

/-! ## Strings -/

/-- A digit of an escape is read as its value. -/
theorem exists_hexDigit {n : Nat} (h : n < 16) :
    ∃ b, String.utf8EncodeChar (Text.hexDigit n) = [b] ∧ hexValue? b = some n := by
  have hall : ∀ n < 16,
      (String.utf8EncodeChar (Text.hexDigit n)).map hexValue? = [some n] := by decide
  obtain ⟨b, hoctets, hvalue⟩ := List.map_eq_singleton_iff.mp (hall n h)
  exact ⟨b, hoctets, hvalue⟩

/-- A control is read back from its code. -/
theorem escaped_control {c : Char} (h : c.toNat < 0x20) (rest : Bytes) :
    escaped (encode ['u', '0', '0', Text.hexDigit (c.toNat / 16), Text.hexDigit (c.toNat % 16)] ++
      rest) = .ok (c, rest) := by
  obtain ⟨x, hx, hxvalue⟩ := exists_hexDigit (n := c.toNat / 16) (by omega)
  obtain ⟨y, hy, hyvalue⟩ := exists_hexDigit (n := c.toNat % 16) (by omega)
  have hoctets : encode ['u', '0', '0', Text.hexDigit (c.toNat / 16),
      Text.hexDigit (c.toNat % 16)] = [0x75, 0x30, 0x30, x, y] := by
    simp only [encode, List.flatMap_cons, List.flatMap_nil, hx, hy]
    rfl
  have hunit : ((0 * 16 + 0) * 16 + c.toNat / 16) * 16 + c.toNat % 16 = c.toNat := by omega
  have hquad : hexQuad (0x30 :: 0x30 :: x :: y :: rest) = .ok (c.toNat, rest) := by
    have hzero : hexValue? 0x30 = some 0 := rfl
    simp only [hexQuad, hzero, hxvalue, hyvalue, hunit]
  have hlow : isLowSurrogate c.toNat = false := by
    simp only [isLowSurrogate, Bool.and_eq_false_iff, decide_eq_false_iff_not]
    omega
  have hhigh : isHighSurrogate c.toNat = false := by
    simp only [isHighSurrogate, Bool.and_eq_false_iff, decide_eq_false_iff_not]
    omega
  rw [hoctets]
  change unicodeEscape (0x30 :: 0x30 :: x :: y :: rest) = _
  rw [unicodeEscape, hquad]
  simp only [bind, Except.bind, hlow, hhigh, Bool.false_eq_true, if_false, Char.ofNat_toNat]

section Pieces

variable {fuel : Nat} {input rest behind : Bytes} {c : Char} {tail : List Piece}

/-- An escape is one piece. -/
theorem pieces_escaped (hchar : escaped input = .ok (c, rest))
    (hrest : pieces fuel rest = .ok (tail, behind)) :
    pieces (fuel + 1) (0x5C :: input) = .ok (.character c :: tail, behind) := by
  rw [pieces, if_neg (by decide), if_pos rfl, hchar]
  simp only [bind, Except.bind, hrest]

/-- A character that is no quote, no backslash and no control is one piece as it is. -/
theorem pieces_utf8EncodeChar (hquote : c ≠ '"') (hbackslash : c ≠ '\\')
    (hcontrol : ¬ c.toNat < 0x20) (hrest : pieces fuel rest = .ok (tail, behind)) :
    pieces (fuel + 1) (String.utf8EncodeChar c ++ rest) = .ok (.character c :: tail, behind) := by
  have hread := decodeChar?_utf8EncodeChar c rest
  obtain ⟨b, others, hoctets, hlead⟩ := exists_utf8EncodeChar c
  -- the first octet is one of ASCII only if the character is
  have hfirst {d : Char} (hd : d.toNat < 0x80) (hne : c ≠ d) : b ≠ UInt8.ofNat d.toNat := by
    rintro rfl
    have hcode : (UInt8.ofNat d.toNat).toNat = d.toNat := toNat_octet (by omega)
    rw [hcode] at hlead
    exact hne (Char.toNat_inj.mp (hlead hd).symm)
  have hended : b ≠ 0x22 := hfirst (d := '"') (by decide) hquote
  have hescaped : b ≠ 0x5C := hfirst (d := '\\') (by decide) hbackslash
  have hprinted : ¬ b < 0x20 := by
    intro hb
    have hnumber : b.toNat < 0x20 := UInt8.lt_iff_toNat_lt.mp hb
    have hcode := hlead (by omega)
    omega
  rw [hoctets, List.cons_append] at hread ⊢
  rw [pieces, if_neg hended, if_neg hescaped, if_neg hprinted, hread]
  simp only [bind, Except.bind, hrest]

/-- Each character of a string is one piece, however it is written. -/
theorem pieces_escape (c : Char) (hrest : pieces fuel rest = .ok (tail, behind)) :
    pieces (fuel + 1) (encode (escape c) ++ rest) = .ok (.character c :: tail, behind) := by
  unfold escape
  split
  case h_8 =>
    next hquote hbackslash _ _ _ _ _ =>
      split
      · next hcontrol => exact pieces_escaped (escaped_control hcontrol rest) hrest
      · next hcontrol =>
        rw [encode_singleton]
        exact pieces_utf8EncodeChar hquote hbackslash hcontrol hrest
  -- the characters that have an escape of their own
  all_goals exact pieces_escaped rfl hrest

/-- The characters of a string are read back up to the closing quote. -/
theorem pieces_flatMap_escape {cs : List Char} (hfuel : cs.length < fuel) (rest : Bytes) :
    pieces fuel (encode (cs.flatMap escape ++ ['"']) ++ rest) =
      .ok (cs.map Piece.character, rest) := by
  induction cs generalizing fuel with
  | nil =>
      obtain ⟨fuel, rfl⟩ := Nat.exists_eq_succ_of_ne_zero (Nat.ne_of_gt hfuel)
      rfl
  | cons c cs ih =>
      rw [List.length_cons] at hfuel
      obtain ⟨fuel, rfl⟩ := Nat.exists_eq_succ_of_ne_zero (Nat.ne_zero_of_lt hfuel)
      have hrest := ih (Nat.lt_of_succ_lt_succ hfuel)
      rw [List.flatMap_cons, List.append_assoc, encode_append, List.append_assoc]
      exact pieces_escape c hrest

end Pieces

theorem characters_map_character (cs : List Char) :
    characters (cs.map Piece.character) = .ok cs := by
  induction cs with
  | nil => rfl
  | cons c cs ih =>
      rw [List.map_cons, characters, ih]
      rfl

/-- A string is read back from behind its opening quote. -/
theorem string_escape (text : String) (rest : Bytes) :
    string (encode (text.toList.flatMap escape ++ ['"']) ++ rest) = .ok (text, rest) := by
  have hescape (c : Char) : escape c ≠ [] := by
    unfold escape
    repeat' split
    all_goals exact List.cons_ne_nil _ _
  have hfuel : text.toList.length <
      (encode (text.toList.flatMap escape ++ ['"']) ++ rest).length := by
    have hcharacters := length_le_length_flatMap hescape text.toList
    have hoctets := length_le_length_encode (text.toList.flatMap escape ++ ['"'])
    rw [List.length_append, List.length_singleton] at hoctets
    rw [List.length_append]
    omega
  rw [string, pieces_flatMap_escape hfuel rest]
  simp only [bind, Except.bind, characters_map_character, String.ofList_toList]

end Reader

end RouteTree.Json
