import ModuleProxy.Proofs.Text.Hex

/-!
Which texts are read as hexadecimal: those that spell a byte with every two characters, white space
left out. A byte is spelled by two digits, or by a plus sign and a digit.
-/

namespace ModuleProxy.Text.Hex

def IsDigit (c : Char) (value : Nat) : Prop :=
  value < 16 ∧ (c = value.digitChar ∨ c = value.digitChar.toUpper)

instance (c : Char) (value : Nat) : Decidable (IsDigit c value) :=
  inferInstanceAs (Decidable (_ ∧ _))

def InBase16 (a b : Char) (byte : UInt8) : Prop :=
  ∃ high low, IsDigit a high ∧ IsDigit b low ∧ byte.toNat = 16 * high + low

/-- The byte in base 16, or a digit of its value with a plus sign before it. -/
def Spells (a b : Char) (byte : UInt8) : Prop :=
  InBase16 a b byte ∨ a = '+' ∧ IsDigit b byte.toNat

inductive InPairs {α : Type} (R : α → α → UInt8 → Prop) : List α → Bytes → Prop where
  | nil : InPairs R [] []
  | cons {a b : α} {byte : UInt8} {rest : List α} {bytes : Bytes} (h : R a b byte)
    (later : InPairs R rest bytes) : InPairs R (a :: b :: rest) (byte :: bytes)

namespace InPairs

variable {α : Type} {R S : α → α → UInt8 → Prop} {items : List α} {bytes : Bytes}

theorem length_eq (h : InPairs R items bytes) : items.length = 2 * bytes.length := by
  induction h with
  | nil => rfl
  | cons _ _ ih =>
    simp only [List.length_cons, ih]
    omega

theorem imp (h : InPairs R items bytes)
    (himp : ∀ a ∈ items, ∀ b byte, R a b byte → S a b byte) : InPairs S items bytes := by
  induction h with
  | nil => exact .nil
  | cons hpair _ ih =>
    refine .cons (himp _ List.mem_cons_self _ _ hpair) (ih fun a ha => himp a ?_)
    exact List.mem_cons_of_mem _ (List.mem_cons_of_mem _ ha)

end InPairs

theorem digit_ascii {c : Char} {value : Nat} (h : IsDigit c value) : c.toNat < 128 := by
  have hall : ∀ n : Fin 16,
      (Nat.digitChar n).toNat < 128 ∧ (Nat.digitChar n).toUpper.toNat < 128 := by decide
  obtain ⟨hlt, rfl | rfl⟩ := h
  · exact (hall ⟨value, hlt⟩).1
  · exact (hall ⟨value, hlt⟩).2

theorem digitValue?_ascii {b value : UInt8} (h : digitValue? b = some value) :
    b < 128 ∧ value < 16 := by
  have hall : ∀ i : Fin 256, ∀ n ∈ digitValue? (UInt8.ofNat i), UInt8.ofNat i < 128 ∧ n < 16 := by
    decide +kernel
  have hb := hall ⟨b.toNat, b.toNat_lt⟩ value
  rw [UInt8.ofNat_toNat] at hb
  exact hb h

theorem digitValue?_eq_some_iff {b value : UInt8} {c : Char} (hc : c.toNat = b.toNat) :
    digitValue? b = some value ↔ IsDigit c value.toNat := by
  have hall : ∀ i : Fin 128, ∀ n : Fin 16, digitValue? (UInt8.ofNat i) = some (UInt8.ofNat n) ↔
      IsDigit (Char.ofNat i) n := by decide +kernel
  have hsmall : b < 128 → value < 16 →
      (digitValue? b = some value ↔ IsDigit c value.toNat) := by
    intro hb hvalue
    have hchar : c = Char.ofNat b.toNat := by rw [← hc, Char.ofNat_toNat]
    have hread := hall ⟨b.toNat, hb⟩ ⟨value.toNat, hvalue⟩
    rw [UInt8.ofNat_toNat, UInt8.ofNat_toNat] at hread
    rw [hchar]
    exact hread
  constructor
  · intro h
    obtain ⟨hb, hvalue⟩ := digitValue?_ascii h
    exact (hsmall hb hvalue).mp h
  · intro h
    have hascii := digit_ascii h
    rw [hc] at hascii
    exact (hsmall hascii h.1).mpr h

theorem not_isDigit_plus (value : Nat) : ¬IsDigit '+' value := by
  have hall : ∀ n : Fin 16, ¬IsDigit '+' n := by decide
  intro h
  exact hall ⟨value, h.1⟩ h

theorem pairValue?_ascii {a b byte : UInt8} (h : pairValue? a b = some byte) :
    a < 128 ∧ b < 128 := by
  unfold pairValue? at h
  split at h
  · rename_i hplus
    subst hplus
    exact ⟨by decide, (digitValue?_ascii h).1⟩
  · obtain ⟨high, hhigh, low, hlow, -⟩ : ∃ high, digitValue? a = some high ∧
        ∃ low, digitValue? b = some low ∧ 16 * high + low = byte := by
      simpa [Option.bind_eq_some_iff] using h
    exact ⟨(digitValue?_ascii hhigh).1, (digitValue?_ascii hlow).1⟩

theorem pairValue?_eq_some_iff {a b byte : UInt8} {c d : Char} (hc : c.toNat = a.toNat)
    (hd : d.toNat = b.toNat) : pairValue? a b = some byte ↔ Spells c d byte := by
  have hhalves : ∀ high low : UInt8, high < 16 → low < 16 →
      (16 * high + low).toNat = 16 * high.toNat + low.toNat := by
    intro high low hhigh hlow
    have hhigh' : high.toNat < 16 := hhigh
    have hlow' : low.toNat < 16 := hlow
    simp
    omega
  by_cases hplus : a = 43
  · obtain rfl : c = '+' := Char.toNat_inj.mp (hc.trans (congrArg UInt8.toNat hplus))
    rw [pairValue?, if_pos hplus, digitValue?_eq_some_iff hd]
    constructor
    · exact fun h => .inr ⟨rfl, h⟩
    · rintro (⟨high, low, hhigh, -⟩ | ⟨-, h⟩)
      · exact absurd hhigh (not_isDigit_plus high)
      · exact h
  · have hne : c ≠ '+' := by
      rintro rfl
      exact hplus (UInt8.toNat_inj.mp hc.symm)
    rw [pairValue?, if_neg hplus]
    simp only [Option.pure_def, Option.bind_eq_bind, Option.bind_eq_some_iff, Option.some.injEq]
    constructor
    · rintro ⟨high, hhigh, low, hlow, rfl⟩
      refine .inl ⟨high.toNat, low.toNat, (digitValue?_eq_some_iff hc).mp hhigh,
        (digitValue?_eq_some_iff hd).mp hlow, ?_⟩
      exact hhalves high low (digitValue?_ascii hhigh).2 (digitValue?_ascii hlow).2
    · rintro (⟨high, low, hhigh, hlow, hbyte⟩ | ⟨h, -⟩)
      · have hhigh' : (UInt8.ofNat high).toNat = high :=
          UInt8.toNat_ofNat_of_lt' (Nat.lt_trans hhigh.1 (by decide))
        have hlow' : (UInt8.ofNat low).toNat = low :=
          UInt8.toNat_ofNat_of_lt' (Nat.lt_trans hlow.1 (by decide))
        refine ⟨UInt8.ofNat high, (digitValue?_eq_some_iff hc).mpr (by rwa [hhigh']),
          UInt8.ofNat low, (digitValue?_eq_some_iff hd).mpr (by rwa [hlow']), ?_⟩
        rw [← UInt8.toNat_inj, hbyte,
          hhalves _ _ (by rw [UInt8.lt_iff_toNat_lt, hhigh']; exact hhigh.1)
          (by rw [UInt8.lt_iff_toNat_lt, hlow']; exact hlow.1), hhigh', hlow']
      · exact absurd h hne

theorem Spells.ascii {c d : Char} {byte : UInt8} (h : Spells c d byte) :
    c.toNat < 128 ∧ d.toNat < 128 := by
  obtain ⟨high, low, hhigh, hlow, -⟩ | ⟨rfl, hdigit⟩ := h
  · exact ⟨digit_ascii hhigh, digit_ascii hlow⟩
  · exact ⟨by decide, digit_ascii hdigit⟩

theorem filter_encodeChar (c : Char) :
    (String.utf8EncodeChar c).filter (!isBlank ·) =
      if Text.isBlank c then [] else String.utf8EncodeChar c := by
  split
  · exact filter_encodeChar_of_blank ‹_›
  · rename_i hc
    rw [List.filter_eq_self]
    intro b hb
    rw [Bool.not_eq_true', ← Bool.not_eq_true]
    intro hblank
    have hbytes : b = 32 ∨ b = 9 ∨ b = 10 ∨ b = 12 ∨ b = 13 := by
      simpa [isBlank, or_assoc] using hblank
    have hchar : ∀ {b : UInt8} {d : Char}, b < 128 → d.toNat = b.toNat → Text.isBlank d = true →
        b ∉ String.utf8EncodeChar c := by
      intro b d hascii hd hblank hb
      have hsame := (Utf8.toNat_of_ascii_mem hascii hb).1.trans hd.symm
      exact hc (Char.toNat_inj.mp hsame ▸ hblank)
    obtain rfl | rfl | rfl | rfl | rfl := hbytes
    · exact hchar (d := ' ') (by decide) rfl rfl hb
    · exact hchar (d := '\t') (by decide) rfl rfl hb
    · exact hchar (d := '\n') (by decide) rfl rfl hb
    · exact hchar (d := '\x0c') (by decide) rfl rfl hb
    · exact hchar (d := '\r') (by decide) rfl rfl hb

theorem filter_encode_eq (text : String) :
    (Utf8.encode text).filter (!isBlank ·) =
      (text.toList.filter (!Text.isBlank ·)).flatMap String.utf8EncodeChar := by
  rw [filter_encode]
  induction text.toList with
  | nil => rfl
  | cons c rest ih =>
    rw [List.flatMap_cons, ih, filter_encodeChar, List.filter_cons]
    cases Text.isBlank c <;> simp

theorem readPair_eq_ok_iff {a b byte : UInt8} :
    readPair a b = .ok byte ↔ pairValue? a b = some byte := by
  unfold readPair
  cases pairValue? a b with
  | some value => simp
  | none => cases Utf8.decode? [a, b] <;> simp

theorem readPairs_eq_ok_iff (digits found bytes : Bytes) (heven : digits.length % 2 = 0) :
    readPairs digits found = .ok bytes ↔
      ∃ later, bytes = found.reverse ++ later ∧
        InPairs (fun a b byte => pairValue? a b = some byte) digits later := by
  fun_induction readPairs digits found with
  | case1 found a b rest e hread =>
    refine ⟨nofun, ?_⟩
    rintro ⟨later, -, hlater⟩
    cases hlater with
    | cons h _ =>
      rw [readPair_eq_ok_iff.mpr h] at hread
      cases hread
  | case2 found a b rest value hread ih =>
    have hrest : rest.length % 2 = 0 := by
      simp only [List.length_cons] at heven
      omega
    rw [ih hrest]
    constructor
    · rintro ⟨later, rfl, hlater⟩
      exact ⟨value :: later, by simp, .cons (readPair_eq_ok_iff.mp hread) hlater⟩
    · rintro ⟨later, rfl, hlater⟩
      cases hlater with
      | cons h hrest =>
        obtain rfl := Except.ok.inj (hread.symm.trans (readPair_eq_ok_iff.mpr h))
        exact ⟨_, by simp, hrest⟩
  | case3 digits found hshort =>
    have hnil : digits = [] := by
      match digits, hshort, heven with
      | [], _, _ => rfl
      | [_], _, heven => simp at heven
      | a :: b :: rest, hshort, _ => exact absurd rfl (hshort a b rest)
    subst hnil
    constructor
    · intro h
      cases h
      exact ⟨[], (List.append_nil _).symm, .nil⟩
    · rintro ⟨later, rfl, hlater⟩
      cases hlater
      rw [List.append_nil]

theorem exists_char_of_ascii_head {chars : List Char} {x : UInt8} {rest : Bytes} (hx : x < 128)
    (hchars : chars.flatMap String.utf8EncodeChar = x :: rest) :
    ∃ c later, chars = c :: later ∧ c.toNat = x.toNat ∧
      later.flatMap String.utf8EncodeChar = rest := by
  cases chars with
  | nil => cases hchars
  | cons c later =>
    rw [List.flatMap_cons] at hchars
    have hmem : x ∈ String.utf8EncodeChar c := by
      have hne : String.utf8EncodeChar c ≠ [] := String.utf8EncodeChar_ne_nil
      obtain ⟨first, others, hform⟩ := List.exists_cons_of_ne_nil hne
      rw [hform, List.cons_append, List.cons.injEq] at hchars
      rw [hform, hchars.1]
      exact List.mem_cons_self
    obtain ⟨hvalue, hform⟩ := Utf8.toNat_of_ascii_mem hx hmem
    rw [hform, List.singleton_append, List.cons.injEq] at hchars
    exact ⟨c, later, rfl, hvalue, hchars.2⟩

theorem inPairs_encode_iff (chars : List Char) (bytes : Bytes) :
    InPairs (fun a b byte => pairValue? a b = some byte)
      (chars.flatMap String.utf8EncodeChar) bytes ↔ InPairs Spells chars bytes := by
  constructor
  · intro h
    generalize hdigits : chars.flatMap String.utf8EncodeChar = digits at h
    induction h generalizing chars with
    | nil =>
      cases chars with
      | nil => exact .nil
      | cons c rest =>
        rw [List.flatMap_cons, List.append_eq_nil_iff] at hdigits
        exact absurd hdigits.1 String.utf8EncodeChar_ne_nil
    | @cons a b byte rest bytes h _ ih =>
      obtain ⟨ha, hb⟩ := pairValue?_ascii h
      obtain ⟨c, chars, rfl, hc, hlater⟩ := exists_char_of_ascii_head ha hdigits
      obtain ⟨d, chars, rfl, hd, hrest⟩ := exists_char_of_ascii_head hb hlater
      exact .cons ((pairValue?_eq_some_iff hc hd).mp h) (ih chars hrest)
  · intro h
    induction h with
    | nil => exact .nil
    | @cons c d byte rest bytes h _ ih =>
      obtain ⟨hc, hd⟩ := h.ascii
      rw [List.flatMap_cons, List.flatMap_cons, Utf8.utf8EncodeChar_of_ascii hc,
        Utf8.utf8EncodeChar_of_ascii hd]
      refine .cons ((pairValue?_eq_some_iff ?_ ?_).mpr h) ih
      · exact (UInt8.toNat_ofNat_of_lt' (Nat.lt_trans hc (by decide))).symm
      · exact (UInt8.toNat_ofNat_of_lt' (Nat.lt_trans hd (by decide))).symm

/-- A text is read as these bytes if what is left of it without its white space spells them, every
two characters a byte; any other text is refused. Where there is no plus sign, that is their form in
base 16. -/
theorem decode_spelled (text : String) (bytes : Bytes) :
    let chars := text.toList.filter (!Text.isBlank ·)
    (decode text = .ok bytes ↔ chars.length = 2 * bytes.length ∧ InPairs Spells chars bytes) ∧
      ('+' ∉ text.toList →
        (decode text = .ok bytes ↔
          chars.length = 2 * bytes.length ∧ InPairs InBase16 chars bytes)) := by
  intro chars
  have hdigits : (Utf8.encode text).filter (!isBlank ·) = chars.flatMap String.utf8EncodeChar :=
    filter_encode_eq text
  have hread : decode text = .ok bytes ↔ InPairs Spells chars bytes := by
    rw [← inPairs_encode_iff, ← hdigits]
    simp only [decode]
    split
    · rename_i heven
      rw [readPairs_eq_ok_iff _ _ _ heven]
      simp
    · rename_i hodd
      constructor
      · intro h
        cases h
      · intro h
        rw [h.length_eq] at hodd
        exact absurd (Nat.mul_mod_right 2 _) hodd
  refine ⟨hread.trans ⟨fun h => ⟨h.length_eq, h⟩, fun h => h.2⟩, fun hplus => ?_⟩
  constructor
  · intro h
    have hspelled := hread.mp h
    refine ⟨hspelled.length_eq, hspelled.imp ?_⟩
    rintro a ha b byte (h16 | ⟨rfl, -⟩)
    · exact h16
    · exact absurd (List.mem_filter.mp ha).1 hplus
  · exact fun h => hread.mpr (h.2.imp fun a _ b byte h16 => .inl h16)

theorem decode_signed_digit :
    decode "+f" = .ok [15] ∧
      ¬InPairs InBase16 ("+f".toList.filter (!Text.isBlank ·)) [15] := by
  constructor
  · rfl
  · rw [show "+f".toList.filter (!Text.isBlank ·) = ['+', 'f'] by decide]
    rintro (_ | ⟨hpair, -⟩)
    obtain ⟨high, low, hhigh, -⟩ := hpair
    exact not_isDigit_plus high hhigh

end ModuleProxy.Text.Hex
