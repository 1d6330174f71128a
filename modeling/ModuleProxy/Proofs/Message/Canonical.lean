import ModuleProxy.Proofs.Message.RoundTrip

/-!
Writing back what was read. A frame without repeated keys comes back as it was, and in any other
the pairs of a repeated key collapse to one: the only freedom that the format leaves.
-/

namespace ModuleProxy

/-- Each key once, at its first position and with its last value. -/
def collapse (pairs : List (String × String)) : List (String × String) :=
  (pairs.map (·.1)).eraseDups.map fun key => (key, (pairs.reverse.lookup key).getD "")

theorem Properties.beq_of_toList_eq {a b : Properties} (hb : b.Indexed)
    (h : a.toList = b.toList) : (a == b) = true := by
  have hsize : a.size = b.size := by simpa [toList, size] using congrArg List.length h
  have hvalues : ∀ entry ∈ b.toList, (b.get? entry.1 == some entry.2) = true := by
    intro entry hentry
    rw [hb.get?_eq_lookup, (lookup_eq_some_iff_mem hb.nodup_keys).mpr hentry]
    exact beq_self_eq_true _
  change (a.size == b.size && a.toList.all _) = true
  rw [h, Bool.and_eq_true, List.all_eq_true]
  exact ⟨beq_iff_eq.mpr hsize, hvalues⟩

namespace Message

open Properties

theorem length_encodePairs_cons (pair : String × String) (pairs : List (String × String)) :
    (encodePairs (pair :: pairs)).length =
      Text.Utf8.size pair.1 + Text.Utf8.size pair.2 + 2 + (encodePairs pairs).length := by
  simp only [encodePairs_cons, List.length_append, List.length_cons, Text.Utf8.length_encode]
  omega

theorem length_encodePairs_append (pairs new : List (String × String)) :
    (encodePairs (pairs ++ new)).length =
      (encodePairs pairs).length + (encodePairs new).length := by
  rw [encodePairs, List.flatMap_append, List.length_append]
  rfl

theorem length_encodePairs_upsert_lt {key : String} (value : String)
    {pairs : List (String × String)} (h : key ∈ pairs.map (·.1)) :
    (encodePairs (upsert key value pairs)).length <
      (encodePairs (pairs ++ [(key, value)])).length := by
  induction pairs with
  | nil => cases h
  | cons pair pairs ih =>
    rw [upsert, List.cons_append]
    split
    · rename_i hkey
      simp only [length_encodePairs_cons, length_encodePairs_append]
      omega
    · rename_i hkey
      have hmem : key ∈ pairs.map (·.1) := by
        simpa [Ne.symm hkey] using h
      rw [length_encodePairs_cons, length_encodePairs_cons]
      exact Nat.add_lt_add_left (ih hmem) _

theorem length_encodePairs_upsertAll_le (pairs new : List (String × String)) :
    (encodePairs (upsertAll pairs new)).length ≤ (encodePairs (pairs ++ new)).length := by
  induction new generalizing pairs with
  | nil => simp [upsertAll]
  | cons pair new ih =>
    have hstep : (encodePairs (upsert pair.1 pair.2 pairs)).length ≤
        (encodePairs (pairs ++ [pair])).length := by
      by_cases hmem : pair.1 ∈ pairs.map (·.1)
      · exact Nat.le_of_lt (length_encodePairs_upsert_lt pair.2 hmem)
      · rw [upsert_of_not_mem pair.2 hmem]
    have hrest := ih (upsert pair.1 pair.2 pairs)
    rw [List.append_cons, length_encodePairs_append]
    rw [length_encodePairs_append] at hrest
    exact Nat.le_trans hrest (Nat.add_le_add_right hstep _)

theorem length_encodePairs_upsertAll_lt (pairs new : List (String × String))
    (h : ¬((pairs ++ new).map (·.1)).Nodup) (hpairs : (pairs.map (·.1)).Nodup) :
    (encodePairs (upsertAll pairs new)).length < (encodePairs (pairs ++ new)).length := by
  induction new generalizing pairs with
  | nil =>
    rw [List.append_nil] at h
    exact absurd hpairs h
  | cons pair new ih =>
    rw [List.append_cons] at h ⊢
    by_cases hmem : pair.1 ∈ pairs.map (·.1)
    · have hstep := length_encodePairs_upsert_lt pair.2 hmem
      have hrest := length_encodePairs_upsertAll_le (upsert pair.1 pair.2 pairs) new
      rw [length_encodePairs_append] at hrest ⊢
      exact Nat.lt_of_le_of_lt hrest (Nat.add_lt_add_right hstep _)
    · have hnodup : ((pairs ++ [pair]).map (·.1)).Nodup := by
        rw [List.map_append]
        exact hpairs.append (by simp) (by simpa using hmem)
      have hstep : upsertAll pairs (pair :: new) = upsertAll (pairs ++ [pair]) new := by
        rw [← upsert_of_not_mem pair.2 hmem]
        rfl
      rw [hstep]
      exact ih _ h hnodup

theorem collapse_eq_upsertAll (pairs : List (String × String)) :
    collapse pairs = upsertAll [] pairs := by
  rw [collapse, ← toList_putAll_empty, indexed_empty.toList_putAll]
  rfl

namespace Spells

variable {pairs : List (String × String)} {content bytes other : Bytes}

theorem length_eq (h : Spells pairs content bytes) :
    bytes.length = 14 + (encodePairs pairs).length + content.length := by
  have hlength := congrArg List.length h.layout
  simp only [List.length_append, Bytes.length_be32, List.length_cons, List.length_nil] at hlength
  omega

theorem eq (h : Spells pairs content bytes) (hother : Spells pairs content other) :
    bytes = other := by
  rw [h.layout, hother.layout, h.length_eq, hother.length_eq]

theorem encodedSize_le (h : Spells pairs content bytes) :
    encodedSize ⟨content, Properties.empty.putAll pairs⟩ ≤ bytes.length := by
  have hpairs := length_encodePairs_upsertAll_le [] pairs
  rw [List.nil_append] at hpairs
  rw [h.length_eq, encodedSize, ← length_encodePairs, indexed_empty.toList_putAll]
  exact Nat.add_le_add_right (Nat.add_le_add_left hpairs _) _

theorem collapsed (h : Spells pairs content bytes) :
    Spells (collapse pairs) content (frame ⟨content, Properties.empty.putAll pairs⟩) := by
  have hsize := Nat.le_trans h.encodedSize_le h.size_le
  have hwritten := spells_frame (Built.empty.putAll h.nulFree) hsize
  rw [indexed_empty.toList_putAll] at hwritten
  rw [collapse_eq_upsertAll]
  exact hwritten

theorem length_lt_of_collapsed (h : Spells pairs content bytes)
    (hother : Spells (collapse pairs) content other) (hrepeated : ¬(pairs.map (·.1)).Nodup) :
    other.length < bytes.length := by
  have hpairs := length_encodePairs_upsertAll_lt [] pairs hrepeated List.nodup_nil
  rw [h.length_eq, hother.length_eq, collapse_eq_upsertAll]
  exact Nat.add_lt_add_right (Nat.add_lt_add_left hpairs _) _

theorem collapsed_eq_iff (h : Spells pairs content bytes)
    (hother : Spells (collapse pairs) content other) :
    other = bytes ↔ (pairs.map (·.1)).Nodup := by
  constructor
  · rintro rfl
    by_contra hrepeated
    exact Nat.lt_irrefl _ (h.length_lt_of_collapsed hother hrepeated)
  · intro hnodup
    have hsame : collapse pairs = pairs := by
      rw [collapse_eq_upsertAll]
      exact @upsertAll_of_nodup [] pairs hnodup
    rw [hsame] at hother
    exact hother.eq h

end Spells

/-- What is read from a frame can be written, into the frame of the same content and the collapsed
pairs, and is read again from there. That frame is the first one again just where no key is
repeated, and it is shorter elsewhere. -/
theorem encode_of_decode {bytes : Bytes} {m : Message} (h : decode bytes = .ok m) :
    ∃ again read, m.encode = .ok again ∧ again.length ≤ bytes.length ∧
      decode again = .ok read ∧ read.content = m.content ∧
      read.properties.toList = m.properties.toList ∧ (read == m) = true ∧
      (∃ pairs, Spells pairs m.content bytes) ∧
      ∀ pairs content, Spells pairs content bytes →
        m.properties.toList = collapse pairs ∧ Spells (collapse pairs) content again ∧
        (again = bytes ↔ (pairs.map (·.1)).Nodup) ∧
        (¬(pairs.map (·.1)).Nodup → again.length < bytes.length) := by
  obtain ⟨found, hspells, hput⟩ := spells_of_decode h
  have hbuilt : m.properties.Built := by
    rw [hput]
    exact Built.empty.putAll hspells.nulFree
  have hshorter : m.encodedSize ≤ bytes.length := by
    have hle := hspells.encodedSize_le
    rwa [← hput] at hle
  have hsize := Nat.le_trans hshorter hspells.size_le
  obtain ⟨read, hread, hcontent, hpairs⟩ := decode_frame hbuilt hsize
  refine ⟨m.frame, read, if_neg (Nat.not_lt.mpr hsize), ?_, hread, hcontent, hpairs, ?_,
    ⟨found, hspells⟩, ?_⟩
  · rwa [length_frame]
  · change (read.content == m.content && read.properties == m.properties) = true
    rw [hcontent, beq_of_toList_eq hbuilt.indexed hpairs, beq_self_eq_true]
    rfl
  · -- however the frame is spelled, it is the same message that is read from it
    intro pairs content hother
    obtain rfl : ⟨content, Properties.empty.putAll pairs⟩ = m :=
      Except.ok.inj ((decode_of_spells hother).symm.trans h)
    have hlist : (Properties.empty.putAll pairs).toList = collapse pairs := by
      rw [indexed_empty.toList_putAll, collapse_eq_upsertAll]
      rfl
    have hagain := hother.collapsed
    exact ⟨hlist, hagain, hother.collapsed_eq_iff hagain, hother.length_lt_of_collapsed hagain⟩

theorem encode_of_decode_repeated_key :
    let bytes : Bytes :=
      [0xA1, 0x60, 0, 0, 0, 23, 0, 0, 0, 2, 97, 0, 49, 0, 97, 0, 50, 0, 0, 0, 0, 1, 51]
    ∃ m again, decode bytes = .ok m ∧ m.encode = .ok again ∧
      Spells [("a", "2")] [51] again ∧ again.length < bytes.length := by
  intro bytes
  have hspells : Spells [("a", "1"), ("a", "2")] [51] bytes :=
    ⟨by simp [hasNul], by decide, by decide, by decide⟩
  have hread := decode_of_spells hspells
  obtain ⟨again, _, hencode, _, _, _, _, _, _, hcollapse⟩ := encode_of_decode hread
  obtain ⟨_, hagain, _, hshorter⟩ := hcollapse _ _ hspells
  exact ⟨_, again, hread, hencode, hagain, hshorter (by decide)⟩

end Message

end ModuleProxy
