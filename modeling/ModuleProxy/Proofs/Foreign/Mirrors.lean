import ModuleProxy.Proofs.Foreign.Agreement
import ModuleProxy.Proofs.Message.Grammar

namespace ModuleProxy.Foreign

open Text.Utf8 (encode decode?)

namespace Handle

theorem terminated_eq {text : String} (h : Properties.hasNul text = false) :
    terminated text = encode text := by
  have hnul : (encode text).contains 0 = false := by
    simpa using (Properties.hasNul_eq_false_iff text).mp h
  simp only [terminated, hnul, Bool.false_eq_true, ↓reduceIte]

theorem texts_ofMessage {m : Message} (h : Properties.NulFree m.properties.toList) :
    (ofMessage m).texts = m.properties.toList.map fun pair => (encode pair.1, encode pair.2) := by
  apply List.map_congr_left
  intro pair hpair
  rw [terminated_eq (h pair hpair).1, terminated_eq (h pair hpair).2]

section Answers

variable {π : Type} {h : Handle} (c : Caller π)

theorem getProperty_of_text {raw : Bytes} {key : String} (hraw : decode? raw = some key) :
    (messageGetProperty (some h) (some raw)).valueOr none c =
      (h.texts.lookup (encode key), { c with lastError := "" }) := by
  simp only [messageGetProperty, text, hraw, pointer, Call.check_ok_bind]
  rfl

theorem getProperty_of_noText {raw : Bytes} (hraw : decode? raw = none) :
    ∃ error, (messageGetProperty (some h) (some raw)).valueOr none c =
      (none, { c with lastError := error }) := by
  simp only [messageGetProperty, text, hraw]
  exact ⟨_, rfl⟩

variable [DecidableEq π]

theorem propertyAt_of_some {index : Nat} {entry : Bytes × Bytes} (hentry : h.texts[index]? = some entry)
    (key value : π) :
    (messagePropertyAt (some h) index (some key) (some value)).answer c =
      (.ok, { c with
        lastError := ""
        texts := put value (some entry.2) (put key (some entry.1) c.texts) }) := by
  simp only [messagePropertyAt, pointer, propertyAt, hentry, Call.check_ok_bind]
  rfl

theorem propertyAt_of_none {index : Nat} (hentry : h.texts[index]? = none) (key value : π) :
    ∃ error, (messagePropertyAt (some h) index (some key) (some value)).answer c =
      (.invalidArgument, { c with lastError := error }) := by
  simp only [messagePropertyAt, pointer, propertyAt, hentry, Call.check_ok_bind]
  exact ⟨_, rfl⟩

end Answers

/-- What callers learn of the properties from a handle is what the message has, whatever else they
hold, and asking changes no handle. -/
structure Mirrors (π : Type) [DecidableEq π] (h : Handle) (m : Message) : Prop where
  message_eq : h.message = m
  texts_eq : h.texts = m.properties.toList.map fun pair => (encode pair.1, encode pair.2)
  count (c : Caller π) : (messagePropertyCount (some h)).valueOr 0 c = (m.properties.size, c)
  entry (c : Caller π) (index : Nat) (key value : String) (keyOut valueOut : π)
    (hentry : m.properties.toList[index]? = some (key, value)) (hout : keyOut ≠ valueOut) :
    let answer := (messagePropertyAt (some h) index (some keyOut) (some valueOut)).answer c
    answer.1 = .ok ∧ answer.2.texts keyOut = some (encode key) ∧
      answer.2.texts valueOut = some (encode value) ∧ answer.2.handles = c.handles
  beyond (c : Caller π) (index : Nat) (keyOut valueOut : π) (hindex : m.properties.size ≤ index) :
    let answer := (messagePropertyAt (some h) index (some keyOut) (some valueOut)).answer c
    answer.1 = .invalidArgument ∧ answer.2.texts = c.texts ∧ answer.2.handles = c.handles
  get (c : Caller π) (raw : Bytes) :
    let answer := (messageGetProperty (some h) (some raw)).valueOr none c
    answer.1 = ((decode? raw).bind fun key => (m.properties.get? key).map encode) ∧
      answer.2.handles = c.handles

theorem mirrors_ofMessage (π : Type) [DecidableEq π] {m : Message} (h : m.properties.Built) :
    (ofMessage m).Mirrors π m := by
  have htexts : (ofMessage m).texts = _ := texts_ofMessage h.nulFree
  have hsize : (ofMessage m).texts.length = m.properties.size := by
    simp [ofMessage, Properties.toList, Properties.size]
  refine ⟨rfl, htexts, ?_, ?_, ?_, ?_⟩
  · intro c
    rw [← hsize]
    rfl
  · intro c index key value keyOut valueOut hentry hout
    have htext : (ofMessage m).texts[index]? = some (encode key, encode value) := by
      rw [htexts, List.getElem?_map, hentry]
      rfl
    rw [propertyAt_of_some c htext]
    exact ⟨rfl, (if_neg hout).trans (if_pos rfl), if_pos rfl, rfl⟩
  · intro c index keyOut valueOut hindex
    rw [← hsize] at hindex
    obtain ⟨error, hanswer⟩ :=
      propertyAt_of_none c (List.getElem?_eq_none_iff.mpr hindex) keyOut valueOut
    rw [hanswer]
    exact ⟨rfl, rfl, rfl⟩
  · intro c raw
    cases hraw : decode? raw with
    | none =>
      obtain ⟨error, hanswer⟩ := getProperty_of_noText c hraw
      rw [hanswer]
      exact ⟨rfl, rfl⟩
    | some key =>
      have hencode : Function.Injective encode := fun _ _ => Text.Utf8.encode_injective
      rw [getProperty_of_text c hraw, htexts, lookup_map hencode, ← h.indexed.get?_eq_lookup]
      exact ⟨rfl, rfl⟩

end Handle

end ModuleProxy.Foreign
