import ModuleProxy.Bytes

/-!
Text as UTF-8. `decode?` is the exact inverse of `encode`; `decodeLossy` reads any bytes and puts
U+FFFD for each longest ill-formed stretch that could have begun a character.
-/

namespace ModuleProxy.Text.Utf8

def encode (text : String) : Bytes :=
  text.toByteArray.data.toList

def decode? (bytes : Bytes) : Option String :=
  String.fromUTF8? ⟨bytes.toArray⟩

def size (text : String) : Nat :=
  text.utf8ByteSize

theorem length_encode (text : String) : (encode text).length = size text := rfl

theorem decode?_encode (text : String) : decode? (encode text) = some text := by
  simp [decode?, encode, String.fromUTF8?, text.isValidUTF8, String.fromUTF8]

theorem eq_encode_of_decode? {bytes : Bytes} {text : String} (h : decode? bytes = some text) :
    bytes = encode text := by
  simp only [decode?, String.fromUTF8?] at h
  split at h
  · obtain rfl := Option.some.inj h
    simp [encode, String.fromUTF8]
  · simp at h

theorem decode?_eq_some_iff {bytes : Bytes} {text : String} :
    decode? bytes = some text ↔ bytes = encode text :=
  ⟨eq_encode_of_decode?, fun h => h ▸ decode?_encode text⟩

theorem encode_injective {text other : String} (h : encode text = encode other) :
    text = other := by
  have hdecode := decode?_encode text
  rw [h, decode?_encode, Option.some.injEq] at hdecode
  exact hdecode.symm

def continuation? (lead : UInt8) : Option (Nat × UInt8 × UInt8) :=
  if lead < 0x80 then some (0, 0x80, 0xBF)
  else if 0xC2 ≤ lead && lead ≤ 0xDF then some (1, 0x80, 0xBF)
  else if lead = 0xE0 then some (2, 0xA0, 0xBF)
  else if lead = 0xED then some (2, 0x80, 0x9F)
  else if 0xE1 ≤ lead && lead ≤ 0xEF then some (2, 0x80, 0xBF)
  else if lead = 0xF0 then some (3, 0x90, 0xBF)
  else if 0xF1 ≤ lead && lead ≤ 0xF3 then some (3, 0x80, 0xBF)
  else if lead = 0xF4 then some (3, 0x80, 0x8F)
  else none

def tailLength : (wanted : Nat) → (low high : UInt8) → Bytes → Nat
  | wanted + 1, low, high, b :: rest =>
    if low ≤ b && b ≤ high then tailLength wanted 0x80 0xBF rest + 1 else 0
  | _, _, _, _ => 0

def replacement : Bytes := [0xEF, 0xBF, 0xBD]

theorem length_drop_lt (lead : UInt8) (rest : Bytes) (n : Nat) :
    (rest.drop n).length < (lead :: rest).length := by
  rw [List.length_drop]
  exact Nat.lt_succ_of_le (Nat.sub_le _ _)

/-- Well-formed bytes that read as `bytes` does, with replacement characters for what is not
UTF-8. The second argument holds the bytes repaired so far, in reverse. -/
def repair (bytes repaired : Bytes) : Bytes :=
  match bytes with
  | [] => repaired.reverse
  | lead :: rest =>
    match continuation? lead with
    | none => repair rest (replacement.reverse ++ repaired)
    | some (wanted, low, high) =>
      let found := tailLength wanted low high rest
      if found = wanted then
        repair (rest.drop found) ((lead :: rest.take found).reverse ++ repaired)
      else repair (rest.drop found) (replacement.reverse ++ repaired)
termination_by bytes.length
decreasing_by
  · exact Nat.lt_succ_self _
  · exact length_drop_lt ..
  · exact length_drop_lt ..

def decodeLossy (bytes : Bytes) : String :=
  (decode? (repair bytes [])).getD ""

end ModuleProxy.Text.Utf8
