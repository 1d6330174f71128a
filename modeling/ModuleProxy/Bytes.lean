/-!
Byte strings and the integer fields inside them. Every size, count and length on the wire is four
bytes wide with the most significant byte first; `int32At?` reads such a field as a signed number
and `word32At?` as an unsigned one.
-/

namespace ModuleProxy

abbrev Bytes := List UInt8

namespace Bytes

/-- The four bytes of `n` modulo `2 ^ 32`, most significant first. -/
def be32 (n : Nat) : Bytes :=
  [UInt8.ofNat (n / 0x1000000), UInt8.ofNat (n / 0x10000), UInt8.ofNat (n / 0x100), UInt8.ofNat n]

def leadingWord32? : Bytes → Option Nat
  | a :: b :: c :: d :: _ => some (((a.toNat * 256 + b.toNat) * 256 + c.toNat) * 256 + d.toNat)
  | _ => none

def signed32 (n : Nat) : Int :=
  if n < 0x80000000 then n else (n : Int) - 0x100000000

def word32At? (bytes : Bytes) (offset : Nat) : Option Nat :=
  leadingWord32? (bytes.drop offset)

def int32At? (bytes : Bytes) (offset : Nat) : Option Int :=
  (bytes.word32At? offset).map signed32

@[simp] theorem length_be32 (n : Nat) : (be32 n).length = 4 := rfl

theorem leadingWord32?_be32_append (n : Nat) (h : n < 0x100000000) (rest : Bytes) :
    leadingWord32? (be32 n ++ rest) = some n := by
  simp only [be32, List.cons_append, leadingWord32?, Option.some.injEq, UInt8.toNat_ofNat']
  omega

theorem signed32_of_lt {n : Nat} (h : n < 0x80000000) : signed32 n = n := by
  exact if_pos h

end Bytes

end ModuleProxy
