import ModuleProxy.Proofs.Message.Grammar

namespace ModuleProxy.Message

open Properties

theorem length_encodePairs (ps : Properties) :
    (encodePairs ps.toList).length = ps.encodedSize := by
  unfold Properties.encodedSize
  induction ps.toList with
  | nil => rfl
  | cons pair pairs ih =>
    rw [List.foldr_cons, ← ih, encodePairs_cons]
    simp only [List.length_append, List.length_cons, Text.Utf8.length_encode]
    omega

theorem two_mul_length_le_encodedSize (ps : Properties) :
    2 * ps.toList.length ≤ ps.encodedSize := by
  unfold Properties.encodedSize
  induction ps.toList with
  | nil => exact Nat.zero_le _
  | cons pair pairs ih =>
    rw [List.foldr_cons, List.length_cons]
    omega

theorem length_frame (m : Message) : m.frame.length = m.encodedSize := by
  simp only [frame, encodedSize, List.length_append, Bytes.length_be32, length_encodePairs,
    FrameKind.signature, FrameKind.minSize, List.length_cons, List.length_nil]
  omega

theorem spells_frame {m : Message} (hm : m.properties.Built)
    (hsize : m.encodedSize ≤ maxFrameSize) :
    Spells m.properties.toList m.content m.frame := by
  have hcount := two_mul_length_le_encodedSize m.properties
  have hproperties : m.properties.encodedSize ≤ m.encodedSize := by
    unfold encodedSize
    omega
  refine ⟨hm.nulFree, ?_, ?_, ?_⟩
  · simp only [maxFrameSize] at hsize
    omega
  · rwa [length_frame]
  · rw [length_frame]
    rfl

theorem decode_frame {m : Message} (hm : m.properties.Built)
    (hsize : m.encodedSize ≤ maxFrameSize) :
    ∃ read, decode m.frame = .ok read ∧ read.content = m.content ∧
      read.properties.toList = m.properties.toList :=
  ⟨_, decode_of_spells (spells_frame hm hsize), rfl, hm.toList_putAll_toList⟩

theorem appendTo_of_le {m : Message} (h : m.encodedSize ≤ maxFrameSize) (buffer : Bytes) :
    m.appendTo buffer = (.ok (), buffer ++ m.frame) := by
  rw [appendTo, encode, if_neg (Nat.not_lt.mpr h)]

theorem appendTo_of_lt {m : Message} (h : maxFrameSize < m.encodedSize) (buffer : Bytes) :
    m.appendTo buffer = (.error (.frameTooLarge m.encodedSize maxFrameSize), buffer) := by
  rw [appendTo, encode, if_pos h]

/-- A message that fits is added to a buffer as a frame of the announced size, which is read back
as the same pairs and content; one that does not fit leaves the buffer alone. -/
theorem appendTo_decode (m : Message) (hm : m.properties.Built) (buffer : Bytes) :
    (m.encodedSize ≤ maxFrameSize →
      ∃ bytes read, m.appendTo buffer = (.ok (), buffer ++ bytes) ∧
        bytes.length = m.encodedSize ∧ decode bytes = .ok read ∧ read.content = m.content ∧
        read.properties.toList = m.properties.toList) ∧
    (maxFrameSize < m.encodedSize →
      m.appendTo buffer = (.error (.frameTooLarge m.encodedSize maxFrameSize), buffer)) := by
  constructor
  · intro hsize
    obtain ⟨read, hread, hcontent, hpairs⟩ := decode_frame hm hsize
    exact ⟨m.frame, read, appendTo_of_le hsize buffer, length_frame m, hread, hcontent, hpairs⟩
  · intro hsize
    exact appendTo_of_lt hsize buffer

theorem appendTo_decode_two_pairs :
    ∃ ps, ofPairs [("k", "v"), ("é", "")] = .ok ps ∧
      ∃ bytes read, appendTo [7] { content := [0, 51], properties := ps } = (.ok (), 7 :: bytes) ∧
        bytes.length = 24 ∧ decode bytes = .ok read ∧ read.content = [0, 51] ∧
        read.properties.toList = [("k", "v"), ("é", "")] := by
  have hfree : NulFree [("k", "v"), ("é", "")] := by simp [hasNul]
  have hpairs := ofPairs_eq_ok_iff.mpr ⟨hfree, rfl⟩
  have hlist : (Properties.empty.putAll [("k", "v"), ("é", "")]).toList =
      [("k", "v"), ("é", "")] := by
    rw [indexed_empty.toList_putAll]
    decide
  have hsize : encodedSize ⟨[0, 51], Properties.empty.putAll [("k", "v"), ("é", "")]⟩ = 24 := by
    rw [encodedSize, Properties.encodedSize, hlist]
    decide
  obtain ⟨bytes, read, happend, hlength, hdecode, hcontent, hread⟩ :=
    (appendTo_decode ⟨[0, 51], _⟩ (built_of_ofPairs hpairs) [7]).1 (hsize.trans_le (by decide))
  exact ⟨_, hpairs, bytes, read, happend, hlength.trans hsize, hdecode, hcontent,
    hread.trans hlist⟩

end ModuleProxy.Message
