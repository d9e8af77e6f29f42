/-!
# Integers in decimal notation

An optional sign and one or more ASCII digits denote an integer; leading zeros do not
matter. A reader with bounds also refuses integers outside them.
-/

namespace RouteTree

/-- The natural number of a non-empty list of ASCII digits. -/
def naturalOfDigits? (digits : List Char) : Option Nat :=
  if !digits.isEmpty && digits.all Char.isDigit then
    some (digits.foldl (fun n c => 10 * n + (c.toNat - 48)) 0)
  else none

/-- The integer of digits with an optional sign in front. -/
def integerOfChars? : List Char → Option Int
  | '+' :: digits => (naturalOfDigits? digits).map Int.ofNat
  | '-' :: digits => (naturalOfDigits? digits).map fun n => -(n : Int)
  | digits => (naturalOfDigits? digits).map Int.ofNat

/-- The integer that a text denotes, if it fits 64 bits with a sign. -/
def signedWord? (text : String) : Option Int :=
  (integerOfChars? text.toList).filter fun n => -0x8000000000000000 ≤ n && n < 0x8000000000000000

/-- The natural number of digits behind an optional plus sign, if it is at most
`greatest`. -/
def naturalUpTo? (greatest : Nat) (text : String) : Option Nat :=
  (match text.toList with
    | '+' :: digits => naturalOfDigits? digits
    | digits => naturalOfDigits? digits).filter fun n => n ≤ greatest

/-- The natural number that a text denotes, if it fits 64 bits. -/
def unsignedWord? (text : String) : Option Nat := naturalUpTo? 0xFFFFFFFFFFFFFFFF text

/-!
## Reading what was written
-/

theorem isDigit_of_mem_toString {n : Nat} {c : Char} (h : c ∈ (toString n).toList) :
    c.isDigit = true := by
  rw [Nat.toString_eq_repr, Nat.toList_repr] at h
  exact Nat.isDigit_of_mem_toDigits (by decide) (by decide) h

theorem notMem_toString {n : Nat} {c : Char} (h : c.isDigit = false) : c ∉ (toString n).toList := by
  intro hmem
  rw [isDigit_of_mem_toString hmem] at h
  cases h

theorem naturalOfDigits?_toString (n : Nat) : naturalOfDigits? (toString n).toList = some n := by
  have hall : (toString n).toList.all Char.isDigit = true :=
    List.all_eq_true.mpr fun _ => isDigit_of_mem_toString
  have hvalue : (toString n).toList.foldl (fun n c => 10 * n + (c.toNat - 48)) 0 = n :=
    calc (toString n).toList.foldl (fun n c => 10 * n + (c.toNat - 48)) 0
        = Nat.ofDigitChars 10 (Nat.toDigits 10 n) 0 := by
          rw [Nat.toString_eq_repr, Nat.toList_repr]
          rfl
      _ = n := Nat.ofDigitChars_ten_toDigits
  rw [naturalOfDigits?, hall, hvalue]
  simp

theorem eq_of_toString_eq {m n : Nat} (h : (toString m).toList = (toString n).toList) : m = n := by
  have hnumber := naturalOfDigits?_toString m
  rw [h, naturalOfDigits?_toString] at hnumber
  exact (Option.some.inj hnumber).symm

theorem integerOfChars?_toString (n : Nat) :
    integerOfChars? (toString n).toList = some (n : Int) := by
  unfold integerOfChars?
  split
  · next hsign => exact absurd (hsign ▸ List.mem_cons_self) (notMem_toString rfl)
  · next hsign => exact absurd (hsign ▸ List.mem_cons_self) (notMem_toString rfl)
  · rw [naturalOfDigits?_toString]
    rfl

theorem isSome_signedWord?_toString {n : Nat} :
    (signedWord? (toString n)).isSome = true ↔ n < 0x8000000000000000 := by
  rw [signedWord?, integerOfChars?_toString, Option.filter_some]
  have hbounds : (-0x8000000000000000 ≤ (n : Int) && (n : Int) < 0x8000000000000000) = true ↔
      n < 0x8000000000000000 := by
    rw [Bool.and_eq_true, decide_eq_true_eq, decide_eq_true_eq]
    omega
  split
  · next h => exact iff_of_true rfl (hbounds.mp h)
  · next h => exact iff_of_false Bool.false_ne_true (mt hbounds.mpr h)

theorem naturalUpTo?_toString {n greatest : Nat} (h : n ≤ greatest) :
    naturalUpTo? greatest (toString n) = some n := by
  unfold naturalUpTo?
  split
  · next hsign => exact absurd (hsign ▸ List.mem_cons_self) (notMem_toString rfl)
  · rw [naturalOfDigits?_toString, Option.filter_some, if_pos (decide_eq_true h)]

end RouteTree
