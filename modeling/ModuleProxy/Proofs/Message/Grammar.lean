import Mathlib.Data.List.TakeWhile
import ModuleProxy.Message.Format
import ModuleProxy.Proofs.Field
import ModuleProxy.Proofs.Message.OrderedMap
import ModuleProxy.Proofs.Text.Terminator

namespace ModuleProxy.Message

open Properties

theorem splitAtNul?_eq_some_iff {bytes raw rest : Bytes} :
    splitAtNul? bytes = some (raw, rest) ↔ bytes = raw ++ 0 :: rest ∧ 0 ∉ raw := by
  unfold splitAtNul?
  constructor
  · intro h
    have hsplit := List.takeWhile_append_dropWhile (p := (· != 0)) (l := bytes)
    have hfront : 0 ∉ bytes.takeWhile (· != 0) := fun hmem => by
      simpa using List.mem_takeWhile_imp hmem
    split at h
    · cases h
    · rename_i stop tail hdrop
      cases h
      have hstop : stop = 0 := by
        have := List.head?_dropWhile_not (· != 0) bytes
        simpa [hdrop] using this
      rw [hdrop, hstop] at hsplit
      exact ⟨hsplit.symm, hfront⟩
  · rintro ⟨rfl, hraw⟩
    have hall : ∀ b ∈ raw, (b != 0) = true := by
      intro b hb
      rw [bne_iff_ne]
      rintro rfl
      exact hraw hb
    rw [List.dropWhile_append_of_pos hall, List.takeWhile_append_of_pos hall]
    simp

theorem readText_eq_ok_iff {index : Nat} {part : PropertyPart} {bytes rest : Bytes}
    {text : String} :
    readText index part bytes = .ok (text, rest) ↔
      bytes = Text.Utf8.encode text ++ 0 :: rest ∧ hasNul text = false := by
  unfold readText
  rw [hasNul_eq_false_iff]
  constructor
  · intro h
    split at h
    · cases h
    · rename_i raw tail hs
      split at h
      · cases h
      · rename_i found hd
        cases h
        obtain rfl := Text.Utf8.eq_encode_of_decode? hd
        exact splitAtNul?_eq_some_iff.mp hs
  · intro h
    rw [splitAtNul?_eq_some_iff.mpr h]
    dsimp only
    rw [Text.Utf8.decode?_encode]

theorem readText_encode_append {text : String} (h : hasNul text = false) (index : Nat)
    (part : PropertyPart) (rest : Bytes) :
    readText index part (Text.Utf8.encode text ++ 0 :: rest) = .ok (text, rest) :=
  readText_eq_ok_iff.mpr ⟨rfl, h⟩

theorem encodePairs_cons (pair : String × String) (pairs : List (String × String)) :
    encodePairs (pair :: pairs) =
      Text.Utf8.encode pair.1 ++ 0 :: (Text.Utf8.encode pair.2 ++ 0 :: encodePairs pairs) := by
  simp [encodePairs]

theorem encodePairs_cons_append (pair : String × String) (pairs : List (String × String))
    (rest : Bytes) :
    encodePairs (pair :: pairs) ++ rest =
      Text.Utf8.encode pair.1 ++
        0 :: (Text.Utf8.encode pair.2 ++ 0 :: (encodePairs pairs ++ rest)) := by
  simp [encodePairs_cons]

theorem readProperties_eq_ok_iff {count index : Nat} {bytes rest : Bytes}
    {ps result : Properties} :
    readProperties count index bytes ps = .ok (result, rest) ↔
      ∃ pairs, pairs.length = count ∧ NulFree pairs ∧ bytes = encodePairs pairs ++ rest ∧
        result = ps.putAll pairs := by
  induction count generalizing index bytes ps with
  | zero =>
    simp only [readProperties, Except.ok.injEq, Prod.mk.injEq, List.length_eq_zero_iff,
      exists_eq_left, nulFree_nil, true_and]
    constructor
    · rintro ⟨rfl, rfl⟩
      exact ⟨rfl, rfl⟩
    · rintro ⟨rfl, rfl⟩
      exact ⟨rfl, rfl⟩
  | succ count ih =>
    constructor
    · intro h
      simp only [readProperties] at h
      split at h
      · cases h
      · rename_i key afterKey hkey
        split at h
        · cases h
        · rename_i value afterValue hvalue
          obtain ⟨rfl, hkeyFree⟩ := readText_eq_ok_iff.mp hkey
          obtain ⟨rfl, hvalueFree⟩ := readText_eq_ok_iff.mp hvalue
          obtain ⟨pairs, rfl, hfree, rfl, rfl⟩ := ih.mp h
          refine ⟨(key, value) :: pairs, rfl, nulFree_cons.mpr ⟨⟨hkeyFree, hvalueFree⟩, hfree⟩,
            (encodePairs_cons_append (key, value) pairs rest).symm, rfl⟩
    · rintro ⟨pairs, hlength, hfree, rfl, rfl⟩
      cases pairs with
      | nil => cases hlength
      | cons pair pairs =>
        obtain ⟨⟨hkeyFree, hvalueFree⟩, hfree⟩ := nulFree_cons.mp hfree
        simp only [readProperties, encodePairs_cons_append, readText_encode_append hkeyFree,
          readText_encode_append hvalueFree]
        exact ih.mpr ⟨pairs, Nat.succ.inj hlength, hfree, rfl, rfl⟩

theorem readInt_eq_ok_iff {field : String} {bytes : Bytes} {n : Int} :
    readInt field bytes = .ok n ↔ bytes.int32At? 0 = some n := by
  unfold readInt
  split
  · rename_i h
    simp [h]
  · rename_i h
    simp [h]

theorem readContent_eq_ok_iff {bytes content : Bytes} :
    readContent bytes = .ok content ↔
      content.length < 0x80000000 ∧ bytes = Bytes.be32 content.length ++ content := by
  simp only [readContent, bind_eq_ok_iff, readInt_eq_ok_iff]
  constructor
  · rintro ⟨declared, hdeclared, h⟩
    split at h
    · rename_i hlength
      cases h
      rw [hlength] at hdeclared
      exact Bytes.int32At?_zero_eq_natCast_iff.mp hdeclared
    · cases h
  · rintro ⟨hlt, rfl⟩
    exact ⟨content.length, Bytes.int32At?_be32_append hlt content, if_pos rfl⟩

theorem decode_eq_ok_iff_checks {bytes : Bytes} {m : Message} :
    decode bytes = .ok m ↔
      14 ≤ bytes.length ∧ [0xA1, 0x60] <+: bytes ∧
        Bytes.int32At? (bytes.drop 2) 0 = some (bytes.length : Int) ∧
        ∃ count : Nat, count ≠ 0x7FFFFFFF ∧ Bytes.int32At? (bytes.drop 6) 0 = some (count : Int) ∧
          ∃ rest, readProperties count 0 (bytes.drop 10) .empty = .ok (m.properties, rest) ∧
            readContent rest = .ok m.content := by
  unfold decode
  simp only [throw_bind_eq, throw_if_eq_ok_iff, throw_unless_eq_ok_iff, bind_eq_ok_iff,
    pure_eq_ok_iff, readInt_eq_ok_iff, List.isPrefixOf_iff_prefix]
  constructor
  · rintro ⟨hmin, hsignature, _, hsize, -, rfl, count, hcount, hrange, ⟨properties, rest⟩,
      hproperties, content, hcontent, rfl⟩
    obtain ⟨n, rfl⟩ := Int.eq_ofNat_of_zero_le (show 0 ≤ count by omega)
    exact ⟨Nat.not_lt.mp hmin, hsignature, hsize, n, by omega, hcount, rest, hproperties, hcontent⟩
  · rintro ⟨hmin, hsignature, hsize, n, hn, hcount, rest, hproperties, hcontent⟩
    refine ⟨Nat.not_lt.mpr hmin, hsignature, _, hsize, ?_, rfl, n, hcount, by omega, (_, rest),
      hproperties, _, hcontent, rfl⟩
    simp only [FrameKind.minSize]
    omega

structure Spells (pairs : List (String × String)) (content bytes : Bytes) : Prop where
  nulFree : NulFree pairs
  count_lt : pairs.length < 0x7FFFFFFF
  size_le : bytes.length ≤ maxFrameSize
  layout : bytes = [0xA1, 0x60] ++ Bytes.be32 bytes.length ++ Bytes.be32 pairs.length ++
    encodePairs pairs ++ Bytes.be32 content.length ++ content

theorem decode_of_spells {pairs : List (String × String)} {content bytes : Bytes}
    (h : Spells pairs content bytes) :
    decode bytes = .ok { content, properties := Properties.empty.putAll pairs } := by
  obtain ⟨hfree, hcount, hsize, hlayout⟩ := h
  obtain ⟨size, hlength⟩ : ∃ size, size = bytes.length := ⟨_, rfl⟩
  rw [← hlength] at hlayout hsize
  have hcontent : content.length < size := by
    rw [hlength, hlayout]
    simp only [List.length_append, Bytes.length_be32]
    omega
  have hbody : bytes.drop 10 = encodePairs pairs ++ (Bytes.be32 content.length ++ content) := by
    rw [hlayout]
    simp [Bytes.be32]
  have hmin : 14 ≤ bytes.length := by
    rw [hlayout]
    simp only [List.length_append, Bytes.length_be32, List.length_cons]
    omega
  simp only [maxFrameSize] at hsize
  apply decode_eq_ok_iff_checks.mpr
  refine ⟨hmin, ?_, ?_, pairs.length, by omega, ?_, Bytes.be32 content.length ++ content, ?_, ?_⟩
  · rw [hlayout]
    simp
  · rw [← hlength, hlayout]
    exact Bytes.int32At?_be32_append (by omega) _
  · rw [hlayout]
    exact Bytes.int32At?_be32_append (by omega) _
  · exact readProperties_eq_ok_iff.mpr ⟨pairs, rfl, hfree, hbody, rfl⟩
  · have hlt : content.length < 0x80000000 := by omega
    exact readContent_eq_ok_iff.mpr ⟨hlt, rfl⟩

theorem spells_of_decode {bytes : Bytes} {m : Message} (h : decode bytes = .ok m) :
    ∃ pairs, Spells pairs m.content bytes ∧ m.properties = Properties.empty.putAll pairs := by
  obtain ⟨-, hsignature, hsize, count, hne, hcount, rest, hproperties, hcontent⟩ :=
    decode_eq_ok_iff_checks.mp h
  obtain ⟨tail, rfl⟩ := hsignature
  obtain ⟨hsizeLt, hsize⟩ := Bytes.int32At?_zero_eq_natCast_iff.mp hsize
  obtain ⟨hcountLt, hcount⟩ := Bytes.int32At?_zero_eq_natCast_iff.mp hcount
  obtain ⟨pairs, rfl, hfree, hpairs, hput⟩ := readProperties_eq_ok_iff.mp hproperties
  obtain ⟨-, rfl⟩ := readContent_eq_ok_iff.mp hcontent
  have hcountLt : pairs.length < 0x7FFFFFFF := by omega
  refine ⟨pairs, ⟨hfree, hcountLt, Nat.le_of_lt_succ hsizeLt, ?_⟩, hput⟩
  change tail = _ ++ tail.drop 4 at hsize
  change tail.drop 4 = _ ++ (tail.drop 4).drop 4 at hcount
  change tail.drop 8 = _ at hpairs
  rw [List.drop_drop, hpairs] at hcount
  rw [hcount] at hsize
  simp only [List.append_assoc]
  exact congrArg ([0xA1, 0x60] ++ ·) hsize

theorem decode_grammar (bytes : Bytes) :
    (∀ m, decode bytes = .ok m ↔
      ∃ pairs, Spells pairs m.content bytes ∧ ofPairs pairs = .ok m.properties) ∧
    (∀ pairs content, Spells pairs content bytes →
      ∃ ps, decode bytes = .ok { content, properties := ps } ∧ ofPairs pairs = .ok ps ∧
        ps.toList = (pairs.map (·.1)).eraseDups.map
          (fun key => (key, (pairs.reverse.lookup key).getD "")) ∧
        ∀ key, ps.get? key = pairs.reverse.lookup key) ∧
    ((∀ pairs content, ¬Spells pairs content bytes) → ∃ e, decode bytes = .error e) := by
  refine ⟨fun m => ⟨fun h => ?_, ?_⟩, fun pairs content h => ?_, fun hnone => ?_⟩
  · obtain ⟨pairs, hspells, hput⟩ := spells_of_decode h
    exact ⟨pairs, hspells, ofPairs_eq_ok_iff.mpr ⟨hspells.nulFree, hput⟩⟩
  · rintro ⟨pairs, hspells, hpairs⟩
    obtain ⟨-, hput⟩ := ofPairs_eq_ok_iff.mp hpairs
    rw [decode_of_spells hspells, ← hput]
  · exact ⟨_, decode_of_spells h, ofPairs_eq_ok_iff.mpr ⟨h.nulFree, rfl⟩,
      toList_putAll_empty pairs, get?_putAll_empty pairs⟩
  · cases hd : decode bytes with
    | error e => exact ⟨e, rfl⟩
    | ok m =>
      obtain ⟨pairs, hspells, -⟩ := spells_of_decode hd
      exact absurd hspells (hnone pairs m.content)

theorem decode_grammar_repeated_key :
    ∃ ps, decode [0xA1, 0x60, 0, 0, 0, 23, 0, 0, 0, 2, 97, 0, 49, 0, 97, 0, 50, 0, 0, 0, 0, 1, 51] =
      .ok { content := [51], properties := ps } ∧ ps.toList = [("a", "2")] := by
  have hspells : Spells [("a", "1"), ("a", "2")] [51]
      [0xA1, 0x60, 0, 0, 0, 23, 0, 0, 0, 2, 97, 0, 49, 0, 97, 0, 50, 0, 0, 0, 0, 1, 51] :=
    ⟨by simp [hasNul], by decide, by decide, by decide⟩
  obtain ⟨ps, hdecode, -, hlist, -⟩ := (decode_grammar _).2.1 _ _ hspells
  exact ⟨ps, hdecode, hlist⟩

end ModuleProxy.Message
