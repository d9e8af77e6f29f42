import RouteTree.Decimal.Numeral

/-!
# Integers and the texts that write them

An integer has many texts: it may have leading zeros, and a plus sign in front if it is
not negative. The reader of words with a sign takes every text whose integer fits. The
reader of words without a sign takes those that have no minus sign, even if they write
zero with one.
-/

namespace RouteTree

/-- One or more ASCII digits. -/
def AreDigits (digits : List Char) : Prop := digits ≠ [] ∧ ∀ c ∈ digits, c.isDigit = true

/-- A text writes an integer: digits that have its absolute value, of which any number
of leading ones may be zero, behind an optional sign. -/
inductive Writes (text : String) : Int → Prop
  | unsigned {digits : List Char} (hdigits : AreDigits digits) (htext : text.toList = digits) :
      Writes text (Nat.ofDigitChars 10 digits 0)
  | plus {digits : List Char} (hdigits : AreDigits digits) (htext : text.toList = '+' :: digits) :
      Writes text (Nat.ofDigitChars 10 digits 0)
  | minus {digits : List Char} (hdigits : AreDigits digits) (htext : text.toList = '-' :: digits) :
      Writes text (-(Nat.ofDigitChars 10 digits 0 : Int))

/-- A text starts with a minus sign. -/
def HasMinus (text : String) : Prop := ∃ behind, text.toList = '-' :: behind

section Digits

variable {digits : List Char} {n : Nat}

theorem naturalOfDigits?_eq_some_iff :
    naturalOfDigits? digits = some n ↔ AreDigits digits ∧ n = Nat.ofDigitChars 10 digits 0 := by
  have hvalue : digits.foldl (fun n c => 10 * n + (c.toNat - 48)) 0 =
      Nat.ofDigitChars 10 digits 0 := rfl
  unfold naturalOfDigits? AreDigits
  rw [hvalue]
  split
  · next h =>
    rw [Bool.and_eq_true, Bool.not_eq_true', List.isEmpty_eq_false_iff, List.all_eq_true] at h
    rw [Option.some.injEq, and_iff_right h, eq_comm]
  · next h =>
    rw [Bool.and_eq_true, Bool.not_eq_true', List.isEmpty_eq_false_iff, List.all_eq_true] at h
    simp [h]

/-- Digits start with no sign. -/
theorem AreDigits.ne_cons {c : Char} (h : AreDigits digits) (hc : c.isDigit = false)
    (behind : List Char) : digits ≠ c :: behind := by
  rintro rfl
  exact absurd (h.2 c List.mem_cons_self) (by simp [hc])

end Digits

section Words

variable {text : String} {z : Int}

theorem integerOfChars?_minus (digits : List Char) :
    integerOfChars? ('-' :: digits) = (naturalOfDigits? digits).map fun n : Nat => -(n : Int) := by
  rw [integerOfChars?]
  cases naturalOfDigits? digits <;> rfl

theorem integerOfChars?_eq_some_iff : integerOfChars? text.toList = some z ↔ Writes text z := by
  constructor
  · intro h
    generalize htext : text.toList = cs at h
    unfold integerOfChars? at h
    split at h
    · next digits =>
      obtain ⟨n, hn, rfl⟩ := Option.map_eq_some_iff.mp h
      obtain ⟨hdigits, rfl⟩ := naturalOfDigits?_eq_some_iff.mp hn
      exact .plus hdigits htext
    · next digits =>
      change integerOfChars? ('-' :: digits) = some z at h
      rw [integerOfChars?_minus] at h
      obtain ⟨n, hn, rfl⟩ := Option.map_eq_some_iff.mp h
      obtain ⟨hdigits, rfl⟩ := naturalOfDigits?_eq_some_iff.mp hn
      exact .minus hdigits htext
    · obtain ⟨n, hn, rfl⟩ := Option.map_eq_some_iff.mp h
      obtain ⟨hdigits, rfl⟩ := naturalOfDigits?_eq_some_iff.mp hn
      exact .unsigned hdigits htext
  · intro h
    cases h with
    | @unsigned digits hdigits htext =>
        have hplus := hdigits.ne_cons (c := '+') rfl
        have hminus := hdigits.ne_cons (c := '-') rfl
        rw [htext]
        unfold integerOfChars?
        split
        · next behind => exact absurd rfl (hplus behind)
        · next behind => exact absurd rfl (hminus behind)
        · rw [naturalOfDigits?_eq_some_iff.mpr ⟨hdigits, rfl⟩]
          rfl
    | plus hdigits htext =>
        rw [htext, integerOfChars?, naturalOfDigits?_eq_some_iff.mpr ⟨hdigits, rfl⟩]
        rfl
    | minus hdigits htext =>
        rw [htext, integerOfChars?_minus, naturalOfDigits?_eq_some_iff.mpr ⟨hdigits, rfl⟩]
        rfl

theorem signedWord?_eq_some_iff : signedWord? text = some z ↔
    Writes text z ∧ -0x8000000000000000 ≤ z ∧ z < 0x8000000000000000 := by
  rw [signedWord?, Option.filter_eq_some_iff, integerOfChars?_eq_some_iff, Bool.and_eq_true,
    decide_eq_true_eq, decide_eq_true_eq]

/-- A minus sign is refused where words have no sign. -/
theorem unsignedWord?_of_hasMinus (h : HasMinus text) : unsignedWord? text = none := by
  obtain ⟨behind, htext⟩ := h
  rw [unsignedWord?, naturalUpTo?, htext]
  rfl

/-- Without a minus sign the integer is a natural number, and it is read if it fits. -/
theorem Writes.exists_unsignedWord? (h : Writes text z) (hminus : ¬ HasMinus text)
    (hz : z ≤ 0xFFFFFFFFFFFFFFFF) : ∃ n : Nat, z = n ∧ unsignedWord? text = some n := by
  cases h with
  | @unsigned digits hdigits htext =>
      refine ⟨_, rfl, ?_⟩
      have hread := naturalOfDigits?_eq_some_iff.mpr ⟨hdigits, rfl⟩
      have hplus := hdigits.ne_cons (c := '+') rfl
      rw [unsignedWord?, naturalUpTo?, htext]
      split
      · next behind => exact absurd rfl (hplus behind)
      · rw [hread, Option.filter_some, if_pos (decide_eq_true (by omega))]
  | @plus digits hdigits htext =>
      refine ⟨_, rfl, ?_⟩
      have hread := naturalOfDigits?_eq_some_iff.mpr ⟨hdigits, rfl⟩
      rw [unsignedWord?, naturalUpTo?, htext]
      simp only [hread]
      rw [Option.filter_some, if_pos (decide_eq_true (by omega))]
  | minus _ htext => exact absurd ⟨_, htext⟩ hminus

theorem writes_toString (n : Nat) : Writes (toString n) n :=
  integerOfChars?_eq_some_iff.mp (integerOfChars?_toString n)

theorem not_hasMinus_toString (n : Nat) : ¬ HasMinus (toString n) := by
  rintro ⟨behind, htext⟩
  exact notMem_toString rfl (htext ▸ List.mem_cons_self)

end Words

end RouteTree
