import ModuleProxy.Message.Properties

namespace ModuleProxy

namespace Text.Utf8

theorem encode_eq_flatMap (text : String) :
    encode text = text.toList.flatMap String.utf8EncodeChar := by
  unfold encode
  rw [← String.ofList_toList (s := text), String.toByteArray_ofList, List.utf8Encode,
    String.toList_ofList]
  simp

theorem ne_ofNat_of_ascii {b : UInt8} (hb : b < 128) {n : Nat} (hlow : 128 ≤ n)
    (hhigh : n < 256) : b ≠ UInt8.ofNat n := by
  intro h
  have hvalue := congrArg UInt8.toNat h
  rw [UInt8.toNat_ofNat', Nat.mod_eq_of_lt hhigh] at hvalue
  have hsmall : b.toNat < 128 := hb
  omega

theorem utf8EncodeChar_of_ascii {c : Char} (hc : c.toNat < 128) :
    String.utf8EncodeChar c = [UInt8.ofNat c.toNat] := by
  fun_cases String.utf8EncodeChar c with
  | case1 v h1 => rfl
  | case2 v h1 h2 | case3 v h1 h2 h3 | case4 v h1 h2 h3 =>
    exact absurd (Nat.le_of_lt_succ hc) h1

theorem lt_of_ascii_mem {b : UInt8} (hb : b < 128) {c : Char}
    (h : b ∈ String.utf8EncodeChar c) : c.toNat < 128 := by
  apply Nat.lt_of_not_le
  intro hc
  revert h
  have hne := fun n => ne_ofNat_of_ascii hb (n := n)
  fun_cases String.utf8EncodeChar c with
  | case1 v h1 => exact absurd (Nat.lt_succ_of_le h1) (Nat.not_lt.mpr hc)
  | case2 v h1 h2 =>
    have hlead := hne (v / 64 % 32 + 192) (by omega) (by omega)
    have hlast := hne (v % 64 + 128) (by omega) (by omega)
    simp only [List.mem_cons, hlead, hlast, List.not_mem_nil, or_self, imp_self]
  | case3 v h1 h2 h3 =>
    have hlead := hne (v / 4096 % 16 + 224) (by omega) (by omega)
    have hnext := hne (v / 64 % 64 + 128) (by omega) (by omega)
    have hlast := hne (v % 64 + 128) (by omega) (by omega)
    simp only [List.mem_cons, hlead, hnext, hlast, List.not_mem_nil, or_self, imp_self]
  | case4 v h1 h2 h3 =>
    have hlead := hne (v / 262144 % 8 + 240) (by omega) (by omega)
    have hsecond := hne (v / 4096 % 64 + 128) (by omega) (by omega)
    have hthird := hne (v / 64 % 64 + 128) (by omega) (by omega)
    have hlast := hne (v % 64 + 128) (by omega) (by omega)
    simp only [List.mem_cons, hlead, hsecond, hthird, hlast, List.not_mem_nil, or_self,
      imp_self]

theorem toNat_of_ascii_mem {b : UInt8} (hb : b < 128) {c : Char}
    (h : b ∈ String.utf8EncodeChar c) :
    c.toNat = b.toNat ∧ String.utf8EncodeChar c = [b] := by
  have hc := lt_of_ascii_mem hb h
  have hsingle := utf8EncodeChar_of_ascii hc
  rw [hsingle, List.mem_singleton] at h
  have hvalue := congrArg UInt8.toNat h
  rw [UInt8.toNat_ofNat', Nat.mod_eq_of_lt (by omega)] at hvalue
  exact ⟨hvalue.symm, by rw [hsingle, h]⟩

theorem zero_mem_utf8EncodeChar (c : Char) : 0 ∈ String.utf8EncodeChar c ↔ c = '\x00' := by
  constructor
  · intro h
    exact Char.toNat_inj.mp (toNat_of_ascii_mem (by decide) h).1
  · rintro rfl
    decide

theorem zero_mem_encode_iff (text : String) : 0 ∈ encode text ↔ '\x00' ∈ text.toList := by
  rw [encode_eq_flatMap, List.mem_flatMap]
  simp only [zero_mem_utf8EncodeChar, exists_eq_right]

end Text.Utf8

theorem Properties.hasNul_eq_false_iff (text : String) :
    hasNul text = false ↔ 0 ∉ Text.Utf8.encode text := by
  rw [Text.Utf8.zero_mem_encode_iff, hasNul, ← Bool.not_eq_true, List.any_eq_true]
  simp

end ModuleProxy
