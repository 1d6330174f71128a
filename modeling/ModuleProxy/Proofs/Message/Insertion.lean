import ModuleProxy.Proofs.Message.Equality
import ModuleProxy.Proofs.Message.Grammar

namespace ModuleProxy

open Properties

namespace Message

def readPairs : Nat → Bytes → List (String × String)
  | 0, _ => []
  | count + 1, bytes =>
    match readText 0 .key bytes with
    | .error _ => []
    | .ok (key, rest) =>
      match readText 0 .value rest with
      | .error _ => []
      | .ok (value, rest) => (key, value) :: readPairs count rest

def pairsIn (bytes : Bytes) : List (String × String) :=
  readPairs ((Bytes.int32At? (bytes.drop 6) 0).getD 0).toNat (bytes.drop 10)

theorem readPairs_encodePairs {pairs : List (String × String)} (h : NulFree pairs) (rest : Bytes) :
    readPairs pairs.length (encodePairs pairs ++ rest) = pairs := by
  induction pairs with
  | nil => rfl
  | cons pair pairs ih =>
    obtain ⟨⟨hkey, hvalue⟩, hfree⟩ := nulFree_cons.mp h
    simp only [List.length_cons, readPairs, encodePairs_cons_append, readText_encode_append hkey,
      readText_encode_append hvalue, ih hfree]

theorem pairsIn_of_spells {pairs : List (String × String)} {content bytes : Bytes}
    (h : Spells pairs content bytes) : pairsIn bytes = pairs := by
  have hcount : pairs.length < 0x80000000 := Nat.lt_succ_of_lt h.count_lt
  have hfield : Bytes.int32At? (bytes.drop 6) 0 = some (pairs.length : Int) := by
    rw [h.layout]
    exact Bytes.int32At?_be32_append hcount _
  have hbody : bytes.drop 10 = encodePairs pairs ++ (Bytes.be32 content.length ++ content) := by
    rw [h.layout]
    simp [Bytes.be32]
  rw [pairsIn, hfield, hbody]
  exact readPairs_encodePairs h.nulFree _

end Message

namespace Properties

/-- The properties are what these pairs make of them, put one after the other: the last value given
for each key, in the order in which the keys came first. -/
structure InOrder (ps : Properties) (puts : List (String × String)) : Prop where
  nodup_keys : ps.keys.Nodup
  nulFree : NulFree ps.toList
  index_iff (key : String) (slot : Nat) : ps.index[key]? = some slot ↔ ps.keys[slot]? = some key
  get?_eq (key : String) : ps.get? key = puts.reverse.lookup key
  keys_eq : ps.keys = (puts.map (·.1)).eraseDups
  toList_eq : ps.toList = ps.keys.map fun key => (key, (ps.get? key).getD "")

theorem inOrder_putAll {puts : List (String × String)} (h : NulFree puts) :
    (empty.putAll puts).InOrder puts := by
  have hbuilt : (empty.putAll puts).Built := Built.empty.putAll h
  exact ⟨hbuilt.indexed.nodup_keys, hbuilt.nulFree, hbuilt.indexed, get?_putAll_empty puts,
    keys_putAll_empty puts, hbuilt.indexed.toList_eq_map_keys⟩

theorem InOrder.indexed {ps : Properties} {puts : List (String × String)} (h : ps.InOrder puts) :
    ps.Indexed :=
  h.index_iff

end Properties

structure Kept where
  properties : Properties
  puts : List (String × String)

inductive PropertiesCall where
  | new
  | ofPairs (pairs : List (String × String))
  | decode (bytes : Bytes)
  | clone (place : Nat)
  | insert (place : Nat) (key value : String)

namespace PropertiesCall

def add (held : List Kept) :
    Except FormatError Kept → Except FormatError (Option String) × List Kept
  | .error e => (.error e, held)
  | .ok kept => (.ok none, held ++ [kept])

def on (held : List Kept) : PropertiesCall → Except FormatError (Option String) × List Kept
  | new => add held (.ok ⟨.empty, []⟩)
  | ofPairs pairs => add held ((⟨·, pairs⟩) <$> Properties.ofPairs pairs)
  | decode bytes => add held ((⟨·.properties, Message.pairsIn bytes⟩) <$> Message.decode bytes)
  | clone place => (.ok none, held ++ held[place]?.toList)
  | insert place key value =>
    match held[place]? with
    | none => (.ok none, held)
    | some kept =>
      match kept.properties.insert key value with
      | .error e => (.error e, held)
      | .ok (properties, old) =>
        (.ok old, held.set place ⟨properties, kept.puts ++ [(key, value)]⟩)

def onAll (held : List Kept) (calls : List PropertiesCall) : List Kept :=
  calls.foldl (fun held call => (call.on held).2) held

structure Grown (kept : Kept) : Prop where
  nulFree : NulFree kept.puts
  properties_eq : kept.properties = Properties.empty.putAll kept.puts

theorem Grown.inOrder {kept : Kept} (h : Grown kept) : kept.properties.InOrder kept.puts := by
  rw [h.properties_eq]
  exact inOrder_putAll h.nulFree

theorem Grown.put {kept : Kept} (h : Grown kept) {key value : String} (hkey : hasNul key = false)
    (hvalue : hasNul value = false) :
    Grown ⟨(kept.properties.put key value).1, kept.puts ++ [(key, value)]⟩ := by
  refine ⟨?_, ?_⟩
  · intro pair hpair
    rcases List.mem_append.mp hpair with hpair | hpair
    · exact h.nulFree pair hpair
    · obtain rfl := List.mem_singleton.mp hpair
      exact ⟨hkey, hvalue⟩
  · rw [putAll_concat, ← h.properties_eq]

theorem grown_of_decode {bytes : Bytes} {m : Message} (h : Message.decode bytes = .ok m) :
    Grown ⟨m.properties, Message.pairsIn bytes⟩ := by
  obtain ⟨pairs, hspells, hput⟩ := Message.spells_of_decode h
  rw [Message.pairsIn_of_spells hspells]
  exact ⟨hspells.nulFree, hput⟩

variable {held : List Kept} {place : Nat} {kept : Kept} {key value : String}

theorem on_insert (h : held[place]? = some kept) (hkey : hasNul key = false)
    (hvalue : hasNul value = false) :
    (insert place key value).on held =
      (.ok (kept.properties.get? key),
        held.set place ⟨(kept.properties.put key value).1, kept.puts ++ [(key, value)]⟩) := by
  have hinsert : kept.properties.insert key value = .ok (kept.properties.put key value) :=
    insert_eq_ok_iff.mpr ⟨⟨hkey, hvalue⟩, rfl⟩
  simp only [on, h, hinsert, put_snd]

theorem on_insert_of_nul (h : held[place]? = some kept)
    (hnul : hasNul key = true ∨ hasNul value = true) :
    (insert place key value).on held =
      (.error (.nulInProperty (if hasNul key then key else value)), held) := by
  have hinsert : kept.properties.insert key value =
      .error (.nulInProperty (if hasNul key then key else value)) := by
    unfold Properties.insert
    by_cases hkey : hasNul key = true
    · simp only [if_pos hkey]
    · simp only [if_neg hkey, if_pos (hnul.resolve_left hkey)]
  simp only [on, h, hinsert]

theorem grown_add (h : ∀ kept ∈ held, Grown kept) {made : Except FormatError Kept}
    (hmade : ∀ kept, made = .ok kept → Grown kept) : ∀ kept ∈ (add held made).2, Grown kept := by
  cases made with
  | error e => exact h
  | ok kept =>
    simp only [add, List.forall_mem_append, List.forall_mem_singleton]
    exact ⟨h, hmade kept rfl⟩

theorem grown_on (h : ∀ kept ∈ held, Grown kept) (call : PropertiesCall) :
    ∀ kept ∈ (call.on held).2, Grown kept := by
  cases call with
  | new =>
    refine grown_add h fun kept hkept => ?_
    cases hkept
    exact ⟨nulFree_nil, rfl⟩
  | ofPairs pairs =>
    refine grown_add h fun kept hkept => ?_
    obtain ⟨properties, hpairs, rfl⟩ := map_eq_ok_iff.mp hkept
    obtain ⟨hfree, rfl⟩ := ofPairs_eq_ok_iff.mp hpairs
    exact ⟨hfree, rfl⟩
  | decode bytes =>
    refine grown_add h fun kept hkept => ?_
    obtain ⟨m, hdecode, rfl⟩ := map_eq_ok_iff.mp hkept
    exact grown_of_decode hdecode
  | clone place =>
    refine List.forall_mem_append.mpr ⟨h, fun kept hkept => ?_⟩
    exact h kept (List.mem_of_getElem? (Option.mem_toList.mp hkept))
  | insert place key value =>
    cases hplace : held[place]? with
    | none => simpa only [on, hplace] using h
    | some kept =>
      have hkept : Grown kept := h kept (List.mem_of_getElem? hplace)
      by_cases hnul : hasNul key = true ∨ hasNul value = true
      · rwa [on_insert_of_nul hplace hnul]
      · simp only [not_or, Bool.not_eq_true] at hnul
        rw [on_insert hplace hnul.1 hnul.2]
        intro other hother
        rcases List.mem_or_eq_of_mem_set hother with hother | rfl
        · exact h other hother
        · exact hkept.put hnul.1 hnul.2

theorem grown_onAll (h : ∀ kept ∈ held, Grown kept) (calls : List PropertiesCall) :
    ∀ kept ∈ onAll held calls, Grown kept := by
  induction calls generalizing held with
  | nil => exact h
  | cons call calls ih => exact ih (grown_on h call)

/-- Whatever the calls, what is held are ordered maps of the pairs put into them. An insertion
answers the value before and adds its pair to the one place; with a NUL it changes nothing.
Properties are equal if they have the same values, which is an equivalence and takes no account of
the order. -/
theorem ordered_map (calls : List PropertiesCall) :
    let held := onAll [] calls
    (∀ kept ∈ held, kept.properties.InOrder kept.puts) ∧
    (∀ place kept, held[place]? = some kept → ∀ key value,
      (hasNul key = true ∨ hasNul value = true →
        (insert place key value).on held =
          (.error (.nulInProperty (if hasNul key then key else value)), held)) ∧
      (hasNul key = false → hasNul value = false →
        ∃ next, next.InOrder (kept.puts ++ [(key, value)]) ∧
          (insert place key value).on held =
            (.ok (kept.properties.get? key), held.set place ⟨next, kept.puts ++ [(key, value)]⟩))) ∧
    (∀ a ∈ held, ∀ b ∈ held,
      ((a.properties == b.properties) = true ↔
        ∀ key, a.properties.get? key = b.properties.get? key) ∧
      ((a.properties == b.properties) = true ↔
        a.properties.toList.Perm b.properties.toList)) ∧
    Equivalence fun a b : {kept // kept ∈ held} => (a.1.properties == b.1.properties) = true := by
  intro held
  have hgrown : ∀ kept ∈ held, Grown kept := grown_onAll (by simp) calls
  have hindexed : ∀ kept ∈ held, kept.properties.Indexed :=
    fun kept hkept => (hgrown kept hkept).inOrder.indexed
  refine ⟨fun kept hkept => (hgrown kept hkept).inOrder,
    fun place kept hplace key value => ⟨?_, ?_⟩, fun a ha b hb => ⟨?_, ?_⟩, ?_⟩
  · exact on_insert_of_nul hplace
  · intro hkey hvalue
    have hkept : Grown kept := hgrown kept (List.mem_of_getElem? hplace)
    exact ⟨_, (hkept.put hkey hvalue).inOrder, on_insert hplace hkey hvalue⟩
  · exact beq_iff_get? (hindexed a ha) (hindexed b hb)
  · exact beq_iff_perm (hindexed a ha) (hindexed b hb)
  · exact
      { refl := fun a => beq_refl (hindexed a.1 a.2)
        symm := fun {a b} => beq_symm (hindexed a.1 a.2) (hindexed b.1 b.2)
        trans := fun {a b c} =>
          beq_trans (hindexed a.1 a.2) (hindexed b.1 b.2) (hindexed c.1 c.2) }

example :
    (onAll [] [.ofPairs [("b", "1"), ("a", "2"), ("b", "3")], .clone 0, .insert 1 "a" "4",
      .insert 1 "c" "\x00"]).map (·.properties.toList) =
      [[("b", "3"), ("a", "2")], [("b", "3"), ("a", "4")]] := by
  cbv

end PropertiesCall

end ModuleProxy
