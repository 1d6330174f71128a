import ModuleProxy.Proofs.Text.Terminator
import ModuleProxy.Text.Hex

namespace ModuleProxy.Text

def isBlank (c : Char) : Bool :=
  c == ' ' || c == '\t' || c == '\n' || c == '\x0c' || c == '\r'

/-- The second text is the first with white space put in. -/
inductive Spaced : List Char → List Char → Prop where
  | nil : Spaced [] []
  | keep (c : Char) {text spaced : List Char} (h : Spaced text spaced) :
    Spaced (c :: text) (c :: spaced)
  | blank {c : Char} (hc : isBlank c = true) {text spaced : List Char} (h : Spaced text spaced) :
    Spaced text (c :: spaced)

theorem Spaced.refl (text : List Char) : Spaced text text := by
  induction text with
  | nil => exact .nil
  | cons c rest ih => exact ih.keep c

theorem Spaced.append {text spaced text' spaced' : List Char} (h : Spaced text spaced)
    (h' : Spaced text' spaced') : Spaced (text ++ text') (spaced ++ spaced') := by
  induction h with
  | nil => exact h'
  | keep c _ ih => exact ih.keep c
  | blank hc _ ih => exact ih.blank hc

namespace Hex

theorem filter_encode (text : String) :
    (Utf8.encode text).filter (!isBlank ·) =
      text.toList.flatMap fun c => (String.utf8EncodeChar c).filter (!isBlank ·) := by
  rw [Utf8.encode_eq_flatMap, List.filter_flatMap]

theorem filter_encodeChar_of_blank {c : Char} (hc : Text.isBlank c = true) :
    (String.utf8EncodeChar c).filter (!isBlank ·) = [] := by
  simp only [Text.isBlank, Bool.or_eq_true, beq_iff_eq] at hc
  obtain (((rfl | rfl) | rfl) | rfl) | rfl := hc <;> rfl

theorem filter_encode_of_spaced {text spaced : String} (h : Spaced text.toList spaced.toList) :
    (Utf8.encode spaced).filter (!isBlank ·) = (Utf8.encode text).filter (!isBlank ·) := by
  rw [filter_encode, filter_encode]
  generalize text.toList = chars, spaced.toList = others at h
  induction h with
  | nil => rfl
  | keep c _ ih => rw [List.flatMap_cons, List.flatMap_cons, ih]
  | blank hc _ ih => rw [List.flatMap_cons, filter_encodeChar_of_blank hc, ih, List.nil_append]

theorem encodeChar_digit {n : UInt8} (hn : n < 16) :
    ∃ d, String.utf8EncodeChar (digit n) = [d] ∧ isBlank d = false ∧ d ≠ 43 ∧
      digitValue? d = some n := by
  have hall : ∀ i : Fin 16, let n := UInt8.ofNat i.val
      ∃ d ∈ String.utf8EncodeChar (digit n), String.utf8EncodeChar (digit n) = [d] ∧
        isBlank d = false ∧ d ≠ 43 ∧ digitValue? d = some n := by decide
  obtain ⟨d, _, hdigit⟩ := hall ⟨n.toNat, hn⟩
  rw [UInt8.ofNat_toNat] at hdigit
  exact ⟨d, hdigit⟩

theorem halves_lt (b : UInt8) : b / 16 < 16 ∧ b % 16 < 16 := by
  have hlt := b.toNat_lt
  constructor <;> rw [UInt8.lt_iff_toNat_lt] <;> simp <;> omega

theorem halves (b : UInt8) : 16 * (b / 16) + b % 16 = b := by
  rw [← UInt8.toNat_inj]
  have hlt := b.toNat_lt
  simp
  omega

theorem readPairs_digits (bytes found : Bytes) :
    readPairs ((Utf8.encode (encode bytes)).filter (!isBlank ·)) found =
        .ok (found.reverse ++ bytes) ∧
      ((Utf8.encode (encode bytes)).filter (!isBlank ·)).length = 2 * bytes.length := by
  rw [filter_encode, encode, String.toList_ofList, digits]
  induction bytes generalizing found with
  | nil => exact ⟨by simp [readPairs], rfl⟩
  | cons b rest ih =>
    obtain ⟨high, hhigh, hblank, hsign, hvalue⟩ := encodeChar_digit (halves_lt b).1
    obtain ⟨low, hlow, hblank', -, hvalue'⟩ := encodeChar_digit (halves_lt b).2
    have hpair : readPair high low = .ok b := by
      simp [readPair, pairValue?, hsign, hvalue, hvalue', halves]
    obtain ⟨hread, hlength⟩ := ih (b :: found)
    simp only [List.flatMap_cons, List.flatMap_append, List.flatMap_nil, hhigh, hlow]
    constructor
    · simp [hblank, hblank', readPairs, hpair, hread]
    · simp [hblank, hblank', hlength]
      omega

theorem decode_of_spaced {bytes : Bytes} {text : String}
    (h : Spaced (encode bytes ++ "\n").toList text.toList) : decode text = .ok bytes := by
  have hdigits : (Utf8.encode text).filter (!isBlank ·) =
      (Utf8.encode (encode bytes)).filter (!isBlank ·) := by
    rw [filter_encode_of_spaced h, filter_encode, filter_encode, String.toList_append,
      List.flatMap_append]
    exact List.append_nil _
  obtain ⟨hread, hlength⟩ := readPairs_digits bytes []
  simp only [decode, hdigits, hlength, Nat.mul_mod_right, ↓reduceIte]
  exact hread

theorem decode_of_encode (bytes : Bytes) : decode (encode bytes) = .ok bytes := by
  obtain ⟨hread, hlength⟩ := readPairs_digits bytes []
  simp only [decode, hlength, Nat.mul_mod_right, ↓reduceIte]
  exact hread

end Hex

end ModuleProxy.Text
