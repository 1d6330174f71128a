import ModuleProxy.Proofs.Machine.Basic
import ModuleProxy.Proofs.Message.Grammar

namespace ModuleProxy.Machine

def readField (frame : Bytes) (offset : Nat) (field : String) : Decoder Int :=
  orThrow (.truncated field 4 (frame.length - offset)) (int32At? frame offset)

def readText (frame : Bytes) (start index : Nat) (part : PropertyPart) :
    Decoder (String × Nat) := do
  let rest := (slice? frame start frame.length).getD []
  let size ← orThrow (.unterminatedProperty index part) (rest.findIdx? (· == 0))
  let raw ← slice rest 0 size
  let text ← orThrow (.notUtf8 ("property " ++ part.name)) (Text.Utf8.decode? raw)
  let stop ← add start size
  let next ← add stop 1
  return (text, next)

/-- The index of the properties is trusted. -/
def putProperty (ps : Properties) (key value : String) : Decoder Properties :=
  match ps.index[key]? with
  | none => pure (ps.put key value).1
  | some slot => do
    let _ ← entryAt ps.toList slot
    return (ps.put key value).1

def readProperties (frame : Bytes) (count index pos : Nat) (ps : Properties) :
    Decoder (Properties × Nat) :=
  match count with
  | 0 => pure (ps, pos)
  | count + 1 => do
    let (key, next) ← readText frame pos index .key
    let (value, next) ← readText frame next index .value
    let ps ← putProperty ps key value
    readProperties frame count (index + 1) next ps

def parseMessage (frame : Bytes) : Decoder (Properties × Nat) := do
  let actual := frame.length
  let minimum := FrameKind.message.minSize
  refuseIf (actual < minimum) (.sizeBelowMinimum actual minimum)
  refuseIf (¬FrameKind.message.signature.isPrefixOf frame) (.wrongSignature .message)
  let declared ← readField frame 2 "total size"
  refuseIf (declared < minimum) (.sizeBelowMinimum declared minimum)
  refuseIf (declared.toNat ≠ actual) (.sizeMismatch declared actual)
  let count ← readField frame 6 "property count"
  refuseIf (count < 0 ∨ count = 0x7FFFFFFF) (.badPropertyCount count)
  -- no more space is set aside than these bytes could need
  let _ ← sub actual 10
  let (ps, pos) ← readProperties frame count.toNat 0 10 .empty
  let size ← readField frame pos "content length"
  let start ← add pos 4
  let remaining ← sub actual start
  refuseIf (size < 0 ∨ size.toNat ≠ remaining) (.sizeMismatch size remaining)
  return (ps, start)

def decodeMessage (frame : Bytes) : Decoder Message := do
  let (properties, start) ← parseMessage frame
  let content ← slice frame start frame.length
  return { content, properties }

def StandsAt (frame : Bytes) (pos : Nat) (rest : Bytes) : Prop :=
  pos ≤ frame.length ∧ rest = frame.drop pos

theorem splitAtNul?_of_findIdx? {bytes : Bytes} :
    Message.splitAtNul? bytes =
      (bytes.findIdx? (· == 0)).map fun size => (bytes.take size, bytes.drop (size + 1)) := by
  cases h : bytes.findIdx? (· == 0) with
  | none =>
    rw [List.findIdx?_eq_none_iff] at h
    cases hs : Message.splitAtNul? bytes with
    | none => rfl
    | some found =>
      have hzero : 0 ∈ bytes := by
        rw [(Message.splitAtNul?_eq_some_iff.mp hs).1]
        simp
      simpa using h 0 hzero
  | some size =>
    obtain ⟨hsize, hzero, hbefore⟩ := List.findIdx?_eq_some_iff_getElem.mp h
    have hbyte : bytes[size] = 0 := by simpa using hzero
    refine Message.splitAtNul?_eq_some_iff.mpr ⟨?_, ?_⟩
    · rw [← hbyte, List.getElem_cons_drop, List.take_append_drop]
    · intro hmem
      obtain ⟨i, hi, hi0⟩ := List.mem_take_iff_getElem.mp hmem
      have := hbefore i (by omega)
      simp [hi0] at this

theorem putProperty_eq {ps : Properties} (h : ps.Indexed) (key value : String) :
    putProperty ps key value = pure (ps.put key value).1 := by
  unfold putProperty
  cases hslot : ps.index[key]? with
  | none => rfl
  | some slot =>
    have hkey := (h key slot).mp hslot
    rw [Properties.keys, List.getElem?_map, Option.map_eq_some_iff] at hkey
    obtain ⟨entry, hentry, -⟩ := hkey
    dsimp only
    rw [entryAt_eq hentry, pure_bind]

theorem readProperties_succ (count index : Nat) (bytes : Bytes) (ps : Properties) :
    Message.readProperties (count + 1) index bytes ps = (do
      let (key, rest) ← Message.readText index .key bytes
      let (value, rest) ← Message.readText index .value rest
      Message.readProperties count (index + 1) rest (ps.put key value).1) := by
  rw [Message.readProperties]
  cases Message.readText index .key bytes with
  | error e => rfl
  | ok found =>
    dsimp only
    rw [ok_bind_eq]
    cases Message.readText index .value found.2 with
    | error e => rfl
    | ok found => rfl

theorem agrees_content {frame : Bytes} {pos : Nat} (hpos : pos + 4 ≤ frame.length) (size : Int)
    (ps : Properties) :
    Agrees (· = ·)
      (do
        refuseIf (size < 0 ∨ size.toNat ≠ frame.length - (pos + 4))
          (.sizeMismatch size (frame.length - (pos + 4)))
        let content ← slice frame (pos + 4) frame.length
        return ({ content, properties := ps } : Message))
      (if size = ((frame.drop pos).drop 4).length then
        return { content := (frame.drop pos).drop 4, properties := ps }
      else throw (.sizeMismatch size ((frame.drop pos).drop 4).length)) := by
  rw [List.drop_drop, List.length_drop]
  refine .demand (by omega) fun _ => .step (slice_eq hpos (Nat.le_refl _)) ?_
  rw [List.take_of_length_le]
  · exact .value rfl
  · rw [List.length_drop]

section

variable {frame : Bytes} (hlength : frame.length < 0x8000000000000000)
include hlength

theorem agrees_readField (pos : Nat) (field : String) :
    Agrees (fun a b => a = b ∧ pos + 4 ≤ frame.length) (readField frame pos field)
      (Message.readInt field (frame.drop pos)) := by
  have hword : frame.length < wordLimit := Nat.lt_trans hlength (by decide)
  have hdrop : Bytes.int32At? (frame.drop pos) 0 = frame.int32At? pos := rfl
  rw [readField, int32At?_eq hword, Message.readInt, List.length_drop, hdrop]
  cases h : frame.int32At? pos with
  | none => exact .fault _
  | some n => exact .value ⟨rfl, add_four_le_of_int32At? h⟩

theorem agrees_readText {pos : Nat} {rest : Bytes} (index : Nat) (part : PropertyPart)
    (h : StandsAt frame pos rest) :
    Agrees (fun a b => a.1 = b.1 ∧ StandsAt frame a.2 b.2) (readText frame pos index part)
      (Message.readText index part rest) := by
  obtain ⟨hpos, rfl⟩ := h
  have hrest : (slice? frame pos frame.length).getD [] = frame.drop pos := by
    rw [slice?, if_pos ⟨hpos, Nat.le_refl _⟩, Option.getD_some, List.take_of_length_le]
    rw [List.length_drop]
  have hlimit : wordLimit = 0x10000000000000000 := rfl
  simp only [readText, hrest, Message.readText, splitAtNul?_of_findIdx?]
  cases hfind : (frame.drop pos).findIdx? (· == 0) with
  | none => exact .fault _
  | some size =>
    have hsize : size < (frame.drop pos).length := (List.findIdx?_eq_some_iff_getElem.mp hfind).1
    rw [List.length_drop] at hsize
    refine .step rfl (.step (slice_eq (Nat.zero_le _) ?_) ?_)
    · rw [List.length_drop]
      omega
    rw [List.drop_zero, Nat.sub_zero]
    cases hdecode : Text.Utf8.decode? ((frame.drop pos).take size) with
    | none =>
      simp only [Option.map_some, hdecode]
      exact .fault _
    | some text =>
      simp only [Option.map_some, hdecode]
      refine .step rfl (.step (add_eq (by omega)) (.step (add_eq (by omega)) ?_))
      exact .value ⟨rfl, by omega, List.drop_drop⟩

theorem agrees_readProperties {count index pos : Nat} {rest : Bytes} {ps : Properties}
    (h : StandsAt frame pos rest) (hps : ps.Indexed) :
    Agrees (fun a b => a.1 = b.1 ∧ StandsAt frame a.2 b.2) (readProperties frame count index pos ps)
      (Message.readProperties count index rest ps) := by
  induction count generalizing index pos rest ps with
  | zero => exact .value ⟨rfl, h⟩
  | succ count ih =>
    rw [readProperties, readProperties_succ]
    refine .bind (agrees_readText hlength index .key h) ?_
    rintro ⟨key, next⟩ ⟨_, rest⟩ ⟨rfl, h⟩
    refine .bind (agrees_readText hlength index .value h) ?_
    rintro ⟨value, next⟩ ⟨_, rest⟩ ⟨rfl, h⟩
    exact .step (putProperty_eq hps key value) (ih h (hps.put key value))

theorem agrees_decodeMessage : Agrees (· = ·) (decodeMessage frame) (Message.decode frame) := by
  have hlimit : wordLimit = 0x10000000000000000 := rfl
  have hminimum : FrameKind.message.minSize = 14 := rfl
  unfold Message.decode decodeMessage parseMessage
  simp only [throw_bind_eq, bind_assoc, pure_bind]
  refine .refuse Iff.rfl fun hsize => ?_
  refine .demand Iff.rfl fun _ => ?_
  refine .bind (agrees_readField hlength 2 _) ?_
  rintro declared _ ⟨rfl, -⟩
  refine .refuse Iff.rfl fun _ => ?_
  refine .demand (by omega) fun _ => ?_
  refine .bind (agrees_readField hlength 6 _) ?_
  rintro count _ ⟨rfl, -⟩
  refine .refuse Iff.rfl fun _ => ?_
  refine .step (sub_eq (by omega)) ?_
  refine .bind (agrees_readProperties hlength ⟨by omega, rfl⟩ Properties.indexed_empty) ?_
  rintro ⟨ps, pos⟩ ⟨_, _⟩ ⟨rfl, -, rfl⟩
  simp only [Message.readContent, bind_assoc]
  refine .bind (agrees_readField hlength pos _) ?_
  rintro size _ ⟨rfl, hpos⟩
  refine .step (add_eq (by omega)) (.step (sub_eq hpos) ?_)
  convert agrees_content hpos size ps using 1
  split <;> rfl

end

end ModuleProxy.Machine
