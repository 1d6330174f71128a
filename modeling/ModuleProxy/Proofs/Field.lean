import ModuleProxy.Bytes

namespace ModuleProxy.Bytes

theorem leadingWord32?_eq_some_iff {bytes : Bytes} {n : Nat} :
    leadingWord32? bytes = some n ↔ n < 0x100000000 ∧ bytes = be32 n ++ bytes.drop 4 := by
  constructor
  · intro h
    match bytes, h with
    | a :: b :: c :: d :: rest, h =>
      simp only [leadingWord32?, Option.some.injEq] at h
      have ha := a.toNat_lt
      have hb := b.toNat_lt
      have hc := c.toNat_lt
      have hd := d.toNat_lt
      have hword : be32 n = [a, b, c, d] := by
        simp only [be32, List.cons.injEq, and_true, ← UInt8.toNat_inj, UInt8.toNat_ofNat']
        omega
      rw [hword]
      exact ⟨by omega, rfl⟩
  · rintro ⟨hlt, hbytes⟩
    rw [hbytes]
    exact leadingWord32?_be32_append n hlt _

theorem signed32_eq_natCast_iff {n k : Nat} (hn : n < 0x100000000) :
    signed32 n = k ↔ n = k ∧ k < 0x80000000 := by
  unfold signed32
  split <;> omega

theorem int32At?_zero_eq_natCast_iff {bytes : Bytes} {k : Nat} :
    bytes.int32At? 0 = some (k : Int) ↔ k < 0x80000000 ∧ bytes = be32 k ++ bytes.drop 4 := by
  simp only [int32At?, word32At?, List.drop_zero, Option.map_eq_some_iff,
    leadingWord32?_eq_some_iff]
  constructor
  · rintro ⟨n, ⟨hn, hbytes⟩, hk⟩
    obtain ⟨rfl, hlt⟩ := (signed32_eq_natCast_iff hn).mp hk
    exact ⟨hlt, hbytes⟩
  · rintro ⟨hlt, hbytes⟩
    exact ⟨k, ⟨by omega, hbytes⟩, signed32_of_lt hlt⟩

theorem int32At?_be32_append {k : Nat} (h : k < 0x80000000) (rest : Bytes) :
    (be32 k ++ rest).int32At? 0 = some (k : Int) :=
  int32At?_zero_eq_natCast_iff.mpr ⟨h, rfl⟩

theorem word32At?_of_drop {bytes rest : Bytes} {offset n : Nat}
    (h : bytes.drop offset = be32 n ++ rest) (hn : n < 0x100000000) :
    bytes.word32At? offset = some n := by
  rw [word32At?, h]
  exact leadingWord32?_be32_append n hn rest

theorem int32At?_of_drop {bytes rest : Bytes} {offset n : Nat}
    (h : bytes.drop offset = be32 n ++ rest) (hn : n < 0x80000000) :
    bytes.int32At? offset = some (n : Int) := by
  rw [int32At?, word32At?_of_drop h (by omega)]
  exact congrArg some (signed32_of_lt hn)

theorem leadingWord32?_append {bytes : Bytes} {n : Nat} (h : leadingWord32? bytes = some n)
    (more : Bytes) : leadingWord32? (bytes ++ more) = some n := by
  obtain ⟨hlt, hbytes⟩ := leadingWord32?_eq_some_iff.mp h
  rw [hbytes, List.append_assoc]
  exact leadingWord32?_be32_append n hlt _

theorem int32At?_append {bytes : Bytes} {offset : Nat} {n : Int}
    (h : bytes.int32At? offset = some n) (more : Bytes) :
    int32At? (bytes ++ more) offset = some n := by
  obtain ⟨word, hword, rfl⟩ := Option.map_eq_some_iff.mp h
  rw [int32At?, word32At?, List.drop_append, leadingWord32?_append hword]
  rfl

end ModuleProxy.Bytes
