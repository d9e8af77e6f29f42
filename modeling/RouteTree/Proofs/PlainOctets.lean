import Mathlib.Data.List.Basic
import RouteTree.Proofs.Utf8RoundTrip
import RouteTree.Router.Basic

/-!
# Octets of plain text

A character of ASCII is one octet. Without a percent sign a text of such characters
stands for itself in the path of a request, so the values that a router has captured are
decoded to themselves.
-/

namespace RouteTree

namespace Utf8

/-- All characters are those of ASCII. -/
def IsAscii (cs : List Char) : Prop := ∀ c ∈ cs, c.toNat < 128

theorem toNat_lt_of_isAlphanum {c : Char} (h : c.isAlphanum = true) : c.toNat < 128 := by
  change (decide (c.val ≥ 'A'.val ∧ c.val ≤ 'Z'.val) || c.val ≥ 'a'.val && c.val ≤ 'z'.val ||
    c.val ≥ '0'.val && c.val ≤ '9'.val) = true at h
  simp only [UInt32.le_iff_toNat_le, Bool.or_eq_true, Bool.and_eq_true, decide_eq_true_eq,
    ge_iff_le, Char.toNat_val] at h
  have hupper : 'Z'.toNat = 90 := rfl
  have hlower : 'z'.toNat = 122 := rfl
  have hdigit : '9'.toNat = 57 := rfl
  omega

theorem encode_of_isAscii {cs : List Char} (h : IsAscii cs) :
    encode cs = cs.map fun c => c.val.toUInt8 := by
  induction cs with
  | nil => rfl
  | cons c cs ih =>
      obtain ⟨hc, hcs⟩ := List.forall_mem_cons.mp h
      have hsize : c.utf8Size = 1 := Char.utf8Size_eq_one_iff.mpr (Nat.le_of_lt_succ hc)
      rw [List.map_cons, ← ih hcs, encode, List.flatMap_cons,
        String.utf8EncodeChar_eq_singleton hsize]
      rfl

theorem toNat_toUInt8 {c : Char} (h : c.toNat < 128) : c.val.toUInt8.toNat = c.toNat :=
  Nat.mod_eq_of_lt (Nat.lt_trans h (by decide))

theorem toNat_ofNat {n : Nat} (h : n < 128) : (Char.ofNat n).toNat = n := by
  have hvalid : n.isValidChar := Or.inl (by omega)
  rw [Char.ofNat, dif_pos hvalid]
  rfl

end Utf8

namespace Percent

/-- Octets without a percent sign stand for themselves. -/
theorem decode_of_notMem {bytes : Bytes} (h : 0x25 ∉ bytes) : decode bytes = bytes := by
  induction bytes with
  | nil => simp
  | cons b rest ih =>
      rw [List.mem_cons, not_or] at h
      rw [decode, ih h.2]
      rintro x y behind rfl
      exact absurd rfl h.1

theorem decodeText?_of_isAscii {text : String} (h : Utf8.IsAscii text.toList)
    (hpercent : '%' ∉ text.toList) : decodeText? text = some text := by
  have hoctets : 0x25 ∉ Utf8.ofString text := by
    rw [Utf8.ofString, Utf8.encode_of_isAscii h, List.mem_map]
    rintro ⟨c, hc, heq⟩
    have hcode : c.toNat = '%'.toNat := by
      rw [← Utf8.toNat_toUInt8 (h c hc), heq]
      rfl
    exact hpercent (Char.toNat_inj.mp hcode ▸ hc)
  rw [decodeText?, decode_of_notMem hoctets, Utf8.toString?_ofString]

end Percent

/-- Values that stand for themselves are decoded to themselves. -/
theorem Router.decodeCaptured_of_forall {captured : List (String × String)}
    (h : ∀ c ∈ captured, Percent.decodeText? c.2 = some c.2) :
    decodeCaptured captured = .ok (SortedMap.ofList captured) := by
  have hgo (done : SortedMap String String) :
      decodeCaptured.go done captured = .ok (done.insertAll captured) := by
    induction captured generalizing done with
    | nil => rfl
    | cons c rest ih =>
        obtain ⟨name, value⟩ := c
        obtain ⟨hvalue, hrest⟩ := List.forall_mem_cons.mp h
        rw [decodeCaptured.go, hvalue]
        exact ih hrest (done.insert name value)
  exact hgo SortedMap.empty

end RouteTree
