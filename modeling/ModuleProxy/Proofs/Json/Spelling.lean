import Mathlib.Data.List.Basic
import Mathlib.Data.List.TakeWhile
import ModuleProxy.Json.Token

namespace ModuleProxy.JsonToken

open JsonValue

theorem hexValue?_hexDigit : ∀ n < 16, hexValue? (hexDigit n) = some n := by
  decide

theorem unit?_control {c : Char} (hc : c.toNat < 32) :
    unit? '0' '0' (hexDigit (c.toNat / 16)) (hexDigit (c.toNat % 16)) = some c.toNat := by
  have hhigh := hexValue?_hexDigit (c.toNat / 16) (by omega)
  have hlow := hexValue?_hexDigit (c.toNat % 16) (by omega)
  have hzero : hexValue? '0' = some 0 := rfl
  simp only [unit?, hzero, hhigh, hlow]
  exact congrArg some (by omega)

theorem readString_control {c : Char} (hc : c.toNat < 32) (rest done : List Char) :
    readString ('\\' :: 'u' :: '0' :: '0' :: hexDigit (c.toNat / 16) :: hexDigit (c.toNat % 16) ::
      rest) done = readString rest (c :: done) := by
  have hlow : c.toNat < 0xD800 := by omega
  simp [readString, unit?_control hc, hlow]

theorem readString_escape (c : Char) (rest done : List Char) :
    readString (escape c ++ rest) done = readString rest (c :: done) := by
  unfold escape
  split
  case h_8 hquote hslash _ _ _ _ _ =>
    split
    · exact readString_control ‹_› rest done
    · rename_i hplain
      rw [List.cons_append, List.nil_append, readString.eq_4]
      · simp [hplain, show c ≠ '\\' from hslash]
      · exact hquote
      · exact fun _ _ _ _ _ heq _ => hslash heq
      · exact fun _ _ heq _ => hslash heq
  all_goals simp [readString, shortEscape?]

theorem readString_flatMap_escape (text rest done : List Char) :
    readString (text.flatMap escape ++ '"' :: rest) done =
      some (String.ofList (done.reverse ++ text), rest) := by
  induction text generalizing done with
  | nil => simp [readString]
  | cons c text ih =>
    rw [List.flatMap_cons, List.append_assoc, readString_escape, ih, List.reverse_cons,
      List.append_assoc]
    rfl

theorem toList_printString (text : String) :
    (printString text).toList = '"' :: (text.toList.flatMap escape ++ ['"']) := by
  simp [printString]

theorem next?_printString (text : String) (rest : List Char) :
    next? ((printString text).toList ++ rest) = some (.string text, rest) := by
  rw [toList_printString, List.cons_append, List.append_assoc, List.singleton_append, next?,
    readString_flatMap_escape]
  simp

def Stops (rest : List Char) : Prop :=
  ∀ c ∈ rest.head?, isNumberChar c = false

theorem isDigit_of_mem_toDigits {n : Nat} {c : Char} (h : c ∈ Nat.toDigits 10 n) :
    isDigit c = true := by
  have hdigit := Nat.isDigit_of_mem_toDigits (by decide) (by decide) h
  simp only [Char.isDigit, ge_iff_le, Bool.and_eq_true, decide_eq_true_eq] at hdigit
  simpa [isDigit, Char.le_def] using hdigit

theorem naturalValue_toDigits (n : Nat) : naturalValue (Nat.toDigits 10 n) = n := by
  have hvalue := Nat.ofDigitChars_ten_toDigits (n := n)
  rw [Nat.ofDigitChars_eq_foldl] at hvalue
  simp only [Nat.mul_comm 10] at hvalue
  exact hvalue

theorem head?_toDigits {n : Nat} (hn : 0 < n) : (Nat.toDigits 10 n).head? ≠ some '0' := by
  induction n using Nat.strongRecOn with
  | ind n ih =>
    obtain hlt | hge := Nat.lt_or_ge n 10
    · rw [Nat.toDigits_of_lt_base hlt, List.head?_cons]
      simpa using Nat.ne_of_gt hn
    · rw [Nat.toDigits_of_base_le (by decide) hge,
        List.head?_append_of_ne_nil _ Nat.toDigits_ne_nil]
      exact ih (n / 10) (by omega) (by omega)

theorem dropWhole?_toDigits (n : Nat) : dropWhole? (Nat.toDigits 10 n) = some [] := by
  obtain rfl | hn := Nat.eq_zero_or_pos n
  · rfl
  · obtain ⟨c, rest, hdigits⟩ := List.exists_cons_of_ne_nil (Nat.toDigits_ne_nil (n := n) (b := 10))
    have hzero := head?_toDigits hn
    have hall : ∀ d ∈ c :: rest, isDigit d = true := fun d hd =>
      isDigit_of_mem_toDigits (hdigits ▸ hd)
    rw [hdigits] at hzero ⊢
    rw [dropWhole?.eq_2 _ _ (by simpa using hzero), if_pos (hall c List.mem_cons_self)]
    have hnone : rest.dropWhile isDigit = [] :=
      List.dropWhile_eq_nil_iff.mpr fun d hd => hall d (List.mem_cons_of_mem c hd)
    exact congrArg some hnone

theorem ofNumber?_toDigits (n : Nat) : ofNumber? (Nat.toDigits 10 n) = some (.natural n) := by
  have hall : ∀ c ∈ Nat.toDigits 10 n, isDigit c = true := fun _ => isDigit_of_mem_toDigits
  have hsign : dropSign (Nat.toDigits 10 n) = Nat.toDigits 10 n := by
    unfold dropSign
    split
    · rename_i rest hminus
      have hdigit := hall '-' (hminus ▸ List.mem_cons_self)
      cases hdigit
    · rfl
  have hnumber : isNumber (Nat.toDigits 10 n) = true := by
    simp [isNumber, hsign, dropWhole?_toDigits, dropFraction?, dropExponent?]
  rw [ofNumber?, if_pos hnumber, if_pos (List.all_eq_true.mpr hall), naturalValue_toDigits]

theorem isNumberChar_of_isDigit {c : Char} (h : isDigit c = true) : isNumberChar c = true := by
  simp [isNumberChar, h]

theorem takeWhile_of_stops {text rest : List Char} (htext : ∀ c ∈ text, isNumberChar c = true)
    (hrest : Stops rest) :
    (text ++ rest).takeWhile isNumberChar = text ∧
      (text ++ rest).dropWhile isNumberChar = rest := by
  rw [List.takeWhile_append_of_pos htext, List.dropWhile_append_of_pos htext]
  cases rest with
  | nil => simp
  | cons c rest =>
    have hc := hrest c rfl
    simp [hc]

theorem toNat_of_isNumberChar {c : Char} (hc : isNumberChar c = true) :
    (48 ≤ c.toNat ∧ c.toNat ≤ 57) ∨ c.toNat ∈ [45, 43, 46, 101, 69] := by
  simp only [isNumberChar, isDigit, Bool.or_eq_true, Bool.and_eq_true, decide_eq_true_eq,
    beq_iff_eq] at hc
  obtain ((((hdigit | rfl) | rfl) | rfl) | rfl) | rfl := hc
  · exact .inl ⟨UInt32.le_iff_toNat_le.mp hdigit.1, UInt32.le_iff_toNat_le.mp hdigit.2⟩
  all_goals exact .inr (by decide)

theorem next?_of_isNumberChar {c : Char} (hc : isNumberChar c = true) (rest : List Char) :
    next? (c :: rest) = (ofNumber? ((c :: rest).takeWhile isNumberChar)).map
      fun token => (token, (c :: rest).dropWhile isNumberChar) := by
  have hcode := toNat_of_isNumberChar hc
  have hmark : isMark c = false := by
    simp only [isMark, Bool.or_eq_false_iff, beq_eq_false_iff_ne]
    refine ⟨⟨⟨⟨⟨?_, ?_⟩, ?_⟩, ?_⟩, ?_⟩, ?_⟩ <;> (rintro rfl; revert hcode; decide)
  unfold next?
  split
  case h_5 =>
    rename_i heq
    cases heq
    rw [if_neg (by simp [hmark])]
    cases ofNumber? _ <;> rfl
  case h_6 => contradiction
  all_goals
    rename_i heq
    cases heq
    exact absurd hcode (by decide)

theorem next?_of_ofNumber? {text : List Char} {token : JsonToken} (hne : text ≠ [])
    (htext : ∀ c ∈ text, isNumberChar c = true) (hnumber : ofNumber? text = some token)
    {rest : List Char} (hrest : Stops rest) : next? (text ++ rest) = some (token, rest) := by
  obtain ⟨htake, hdrop⟩ := takeWhile_of_stops htext hrest
  obtain ⟨c, more, rfl⟩ := List.exists_cons_of_ne_nil hne
  rw [List.cons_append] at htake hdrop ⊢
  rw [next?_of_isNumberChar (htext c List.mem_cons_self), htake, hdrop, hnumber]
  rfl

structure Spells (text : List Char) (tokens : List JsonToken) (rest : List Char) : Prop where
  scanFrom_eq : ∀ steps found, scanFrom (steps + tokens.length) (text ++ rest) found =
    scanFrom steps rest (tokens.reverse ++ found)
  length_le : tokens.length ≤ text.length

theorem Spells.append {text more rest : List Char} {tokens others : List JsonToken}
    (h : Spells text tokens (more ++ rest)) (hmore : Spells more others rest) :
    Spells (text ++ more) (tokens ++ others) rest where
  scanFrom_eq steps found := by
    rw [List.append_assoc, List.length_append, Nat.add_comm tokens.length, ← Nat.add_assoc,
      h.scanFrom_eq, hmore.scanFrom_eq, List.reverse_append, List.append_assoc]
  length_le := by
    rw [List.length_append, List.length_append]
    exact Nat.add_le_add h.length_le hmore.length_le

theorem Spells.of_next? {c : Char} {text rest : List Char} {token : JsonToken}
    (hblank : isBlank c = false) (hnext : next? (c :: text ++ rest) = some (token, rest)) :
    Spells (c :: text) [token] rest where
  scanFrom_eq steps found := by
    rw [List.cons_append] at hnext ⊢
    rw [List.length_singleton, scanFrom.eq_def, List.dropWhile_cons_of_neg (by simp [hblank])]
    simp only [hnext]
    rfl
  length_le := by simp

theorem Spells.mark {c : Char} (hc : isMark c = true) (rest : List Char) :
    Spells [c] [.mark c] rest := by
  simp only [isMark, Bool.or_eq_true, beq_iff_eq] at hc
  obtain ((((rfl | rfl) | rfl) | rfl) | rfl) | rfl := hc
  all_goals exact .of_next? rfl rfl

theorem Spells.printString (text : String) (rest : List Char) :
    Spells (JsonValue.printString text).toList [.string text] rest := by
  have hnext := next?_printString text rest
  rw [toList_printString] at hnext ⊢
  exact .of_next? rfl hnext

theorem Spells.of_ofNumber? {text rest : List Char} {token : JsonToken} (hne : text ≠ [])
    (htext : ∀ c ∈ text, isNumberChar c = true) (hnumber : ofNumber? text = some token)
    (hrest : Stops rest) : Spells text [token] rest := by
  have hnext := next?_of_ofNumber? hne htext hnumber hrest
  obtain ⟨c, more, rfl⟩ := List.exists_cons_of_ne_nil hne
  refine .of_next? ?_ hnext
  have hcode := toNat_of_isNumberChar (htext c List.mem_cons_self)
  simp only [isBlank, Bool.or_eq_false_iff, beq_eq_false_iff_ne]
  refine ⟨⟨⟨?_, ?_⟩, ?_⟩, ?_⟩ <;> (rintro rfl; revert hcode; decide)

theorem Spells.natural (n : Nat) {rest : List Char} (hrest : Stops rest) :
    Spells (toString n).toList [.natural n] rest := by
  rw [Nat.toString_eq_ofList_toDigits, String.toList_ofList]
  exact .of_ofNumber? Nat.toDigits_ne_nil
    (fun _ hc => isNumberChar_of_isDigit (isDigit_of_mem_toDigits hc)) (ofNumber?_toDigits n) hrest

theorem scan_of_spells {text : String} {tokens : List JsonToken}
    (h : Spells text.toList tokens []) : scan text = some tokens := by
  obtain ⟨steps, hsteps⟩ := Nat.exists_eq_add_of_le' h.length_le
  rw [scan, ← String.length_toList, hsteps, ← List.append_nil text.toList, h.scanFrom_eq,
    scanFrom.eq_def]
  simp

end ModuleProxy.JsonToken
