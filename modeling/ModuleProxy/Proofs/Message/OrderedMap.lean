import Mathlib.Data.List.Nodup
import ModuleProxy.Message.Properties
import ModuleProxy.Proofs.Success
import ModuleProxy.Proofs.Upsert

namespace ModuleProxy

namespace Properties

theorem put_snd (ps : Properties) (key value : String) : (ps.put key value).2 = ps.get? key := by
  unfold put get?
  cases ps.index[key]? with
  | none => rfl
  | some slot =>
    cases hentry : ps.entries[slot]? <;> simp [hentry]

/-- The index leads from each key to its position, and from nothing else. -/
def Indexed (ps : Properties) : Prop :=
  ∀ (key : String) (slot : Nat), ps.index[key]? = some slot ↔ ps.keys[slot]? = some key

theorem indexed_empty : empty.Indexed := by
  intro key slot
  simp [empty, keys, toList]

theorem Indexed.nodup_keys {ps : Properties} (h : ps.Indexed) : ps.keys.Nodup := by
  apply List.nodup_iff_getElem?_ne_getElem?.mpr
  intro i j hij hj heq
  have hkey : ps.keys[j]? = some ps.keys[j] := List.getElem?_eq_getElem hj
  have hi := (h _ i).mpr (heq.trans hkey)
  have := hi.symm.trans ((h _ j).mpr hkey)
  simp only [Option.some.injEq] at this
  omega

theorem Indexed.not_mem_keys {ps : Properties} (h : ps.Indexed) {key : String}
    (hnone : ps.index[key]? = none) : key ∉ ps.keys := by
  intro hmem
  obtain ⟨slot, hslot⟩ := List.mem_iff_getElem?.mp hmem
  rw [(h key slot).mpr hslot] at hnone
  cases hnone

theorem keys_getElem? (ps : Properties) (slot : Nat) :
    ps.keys[slot]? = ps.entries[slot]?.map (·.1) := by
  simp [keys, toList]

theorem Indexed.toList_put {ps : Properties} (h : ps.Indexed) (key value : String) :
    (ps.put key value).1.toList = upsert key value ps.toList := by
  unfold put
  split
  · rename_i slot hslot
    have hkey := (h key slot).mp hslot
    rw [keys_getElem?, Option.map_eq_some_iff] at hkey
    obtain ⟨entry, hentry, rfl⟩ := hkey
    simp only [toList, Array.toList_modify]
    have hslot : ps.entries.toList[slot]? = some (entry.1, entry.2) := by simpa using hentry
    exact modify_eq_upsert value hslot h.nodup_keys
  · rename_i hnone
    rw [upsert_of_not_mem value (h.not_mem_keys hnone)]
    simp [toList]

theorem Indexed.keys_put {ps : Properties} (h : ps.Indexed) (key value : String) :
    (ps.put key value).1.keys = if key ∈ ps.keys then ps.keys else ps.keys ++ [key] := by
  rw [keys, h.toList_put, keys_upsert]
  rfl

theorem Indexed.put {ps : Properties} (h : ps.Indexed) (key value : String) :
    (ps.put key value).1.Indexed := by
  intro k slot
  rw [h.keys_put]
  unfold Properties.put
  split
  · rename_i i hi
    rw [if_pos (List.mem_of_getElem? ((h key i).mp hi))]
    exact h k slot
  · rename_i hnone
    have hsize : ps.keys.length = ps.entries.size := by simp [keys, toList]
    have hnot : key ∉ ps.keys := h.not_mem_keys hnone
    simp only [if_neg hnot, Std.HashMap.getElem?_insert, List.getElem?_append, hsize]
    by_cases hk : key = k
    · subst hk
      by_cases hlt : slot < ps.entries.size
      · have hne : ps.keys[slot]? ≠ some key := fun hs => hnot (List.mem_of_getElem? hs)
        simp only [beq_self_eq_true, ↓reduceIte, hlt, Option.some.injEq, hne, iff_false]
        omega
      · simp only [beq_self_eq_true, ↓reduceIte, hlt, Option.some.injEq]
        rw [List.getElem?_singleton]
        split <;> simp <;> omega
    · by_cases hlt : slot < ps.entries.size
      · simp [hk, hlt, h k slot]
      · have hnone' : ps.keys[slot]? = none := by
          rw [List.getElem?_eq_none_iff]
          omega
        rw [if_neg (by simpa using hk), h k slot, hnone', if_neg hlt, List.getElem?_singleton]
        split <;> simp [hk]

theorem Indexed.get?_eq_lookup {ps : Properties} (h : ps.Indexed) (key : String) :
    ps.get? key = ps.toList.lookup key := by
  unfold get?
  cases hi : ps.index[key]? with
  | none =>
    symm
    apply List.lookup_eq_none_iff.mpr
    intro pair hpair
    apply bne_iff_ne.mpr
    rintro rfl
    exact h.not_mem_keys hi (List.mem_map.mpr ⟨pair, hpair, rfl⟩)
  | some slot =>
    have hkey := (h key slot).mp hi
    rw [keys_getElem?, Option.map_eq_some_iff] at hkey
    obtain ⟨entry, hentry, rfl⟩ := hkey
    have hmem : entry ∈ ps.toList := Array.mem_toList_iff.mpr (Array.mem_of_getElem? hentry)
    simp only [Option.bind_eq_bind, Option.bind_some, hentry]
    exact ((lookup_eq_some_iff_mem h.nodup_keys).mpr hmem).symm

theorem Indexed.toList_eq_map_keys {ps : Properties} (h : ps.Indexed) :
    ps.toList = ps.keys.map fun key => (key, (ps.get? key).getD "") := by
  have hpairs : ∀ pair ∈ ps.toList, (pair.1, (ps.get? pair.1).getD "") = id pair := by
    intro pair hpair
    rw [h.get?_eq_lookup, (lookup_eq_some_iff_mem h.nodup_keys).mpr hpair]
    rfl
  rw [keys, List.map_map]
  exact ((List.map_congr_left hpairs).trans (List.map_id _)).symm

def putAll (ps : Properties) (pairs : List (String × String)) : Properties :=
  pairs.foldl (fun ps pair => (ps.put pair.1 pair.2).1) ps

theorem putAll_concat (ps : Properties) (puts : List (String × String)) (pair : String × String) :
    ps.putAll (puts ++ [pair]) = ((ps.putAll puts).put pair.1 pair.2).1 := by
  rw [putAll, List.foldl_append]
  rfl

theorem Indexed.putAll {ps : Properties} (h : ps.Indexed) (pairs : List (String × String)) :
    (ps.putAll pairs).Indexed := by
  induction pairs generalizing ps with
  | nil => exact h
  | cons pair pairs ih => exact ih (h.put pair.1 pair.2)

theorem Indexed.toList_putAll {ps : Properties} (h : ps.Indexed)
    (pairs : List (String × String)) :
    (ps.putAll pairs).toList = upsertAll ps.toList pairs := by
  induction pairs generalizing ps with
  | nil => rfl
  | cons pair pairs ih =>
    have := ih (h.put pair.1 pair.2)
    rw [h.toList_put] at this
    exact this

theorem keys_putAll_empty (pairs : List (String × String)) :
    (empty.putAll pairs).keys = (pairs.map (·.1)).eraseDups := by
  rw [keys, indexed_empty.toList_putAll]
  exact keys_upsertAll pairs

theorem get?_putAll_empty (pairs : List (String × String)) (key : String) :
    (empty.putAll pairs).get? key = pairs.reverse.lookup key := by
  rw [(indexed_empty.putAll pairs).get?_eq_lookup, indexed_empty.toList_putAll]
  exact lookup_upsertAll pairs key

theorem toList_putAll_empty (pairs : List (String × String)) :
    (empty.putAll pairs).toList =
      (pairs.map (·.1)).eraseDups.map fun key => (key, (pairs.reverse.lookup key).getD "") := by
  rw [(indexed_empty.putAll pairs).toList_eq_map_keys, keys_putAll_empty]
  simp only [get?_putAll_empty]

def NulFree (pairs : List (String × String)) : Prop :=
  ∀ pair ∈ pairs, hasNul pair.1 = false ∧ hasNul pair.2 = false

@[simp] theorem nulFree_nil : NulFree [] := by
  simp [NulFree]

@[simp] theorem nulFree_cons {pair : String × String} {pairs : List (String × String)} :
    NulFree (pair :: pairs) ↔
      (hasNul pair.1 = false ∧ hasNul pair.2 = false) ∧ NulFree pairs := by
  simp only [NulFree, List.forall_mem_cons]

theorem insert_eq_ok_iff {ps : Properties} {key value : String}
    {result : Properties × Option String} :
    ps.insert key value = .ok result ↔
      (hasNul key = false ∧ hasNul value = false) ∧ result = ps.put key value := by
  unfold insert
  split
  · rename_i hk
    simp [hk]
  · rename_i hk
    split
    · rename_i hv
      simp [hv]
    · rename_i hv
      simp [hk, hv, eq_comm]

theorem foldlM_insert_eq_ok_iff {ps result : Properties} {pairs : List (String × String)} :
    pairs.foldlM (fun ps pair => (·.1) <$> ps.insert pair.1 pair.2) ps =
      (.ok result : Except FormatError Properties) ↔
      NulFree pairs ∧ result = ps.putAll pairs := by
  induction pairs generalizing ps with
  | nil =>
    simp only [List.foldlM_nil, pure_eq_ok_iff, nulFree_nil, true_and]
    exact eq_comm
  | cons pair pairs ih =>
    simp only [List.foldlM_cons, bind_eq_ok_iff, map_eq_ok_iff, insert_eq_ok_iff, ih]
    constructor
    · rintro ⟨-, ⟨-, ⟨hgood, rfl⟩, rfl⟩, hfree, rfl⟩
      exact ⟨nulFree_cons.mpr ⟨hgood, hfree⟩, rfl⟩
    · rintro ⟨hfree, rfl⟩
      obtain ⟨hgood, hfree⟩ := nulFree_cons.mp hfree
      exact ⟨_, ⟨_, ⟨hgood, rfl⟩, rfl⟩, hfree, rfl⟩

theorem ofPairs_eq_ok_iff {pairs : List (String × String)} {ps : Properties} :
    ofPairs pairs = .ok ps ↔ NulFree pairs ∧ ps = empty.putAll pairs :=
  foldlM_insert_eq_ok_iff

inductive Built : Properties → Prop where
  | empty : Built .empty
  | insert {ps next : Properties} {key value : String} {old : Option String} (h : Built ps)
    (hi : ps.insert key value = .ok (next, old)) : Built next

theorem Built.indexed {ps : Properties} (h : ps.Built) : ps.Indexed := by
  induction h with
  | empty => exact indexed_empty
  | insert h hi ih =>
    obtain ⟨-, heq⟩ := insert_eq_ok_iff.mp hi
    obtain rfl := congrArg Prod.fst heq
    exact ih.put _ _

theorem nulFree_upsert {key value : String} {pairs : List (String × String)}
    (hkey : hasNul key = false) (hvalue : hasNul value = false) (h : NulFree pairs) :
    NulFree (upsert key value pairs) := by
  induction pairs with
  | nil => simp [upsert, hkey, hvalue]
  | cons pair pairs ih =>
    obtain ⟨hpair, hpairs⟩ := nulFree_cons.mp h
    rw [upsert]
    split
    · exact nulFree_cons.mpr ⟨⟨hkey, hvalue⟩, hpairs⟩
    · exact nulFree_cons.mpr ⟨hpair, ih hpairs⟩

theorem Built.nulFree {ps : Properties} (h : ps.Built) : NulFree ps.toList := by
  induction h with
  | empty => exact nulFree_nil
  | insert h hi ih =>
    obtain ⟨⟨hkey, hvalue⟩, heq⟩ := insert_eq_ok_iff.mp hi
    obtain rfl := congrArg Prod.fst heq
    rw [h.indexed.toList_put]
    exact nulFree_upsert hkey hvalue ih

theorem Built.toList_putAll_toList {ps : Properties} (h : ps.Built) :
    (Properties.empty.putAll ps.toList).toList = ps.toList := by
  rw [indexed_empty.toList_putAll]
  exact upsertAll_of_nodup h.indexed.nodup_keys

theorem Built.putAll {ps : Properties} (h : ps.Built) {pairs : List (String × String)}
    (hfree : NulFree pairs) : (ps.putAll pairs).Built := by
  induction pairs generalizing ps with
  | nil => exact h
  | cons pair pairs ih =>
    obtain ⟨hpair, hpairs⟩ := nulFree_cons.mp hfree
    have hi : ps.insert pair.1 pair.2 = .ok (ps.put pair.1 pair.2) :=
      insert_eq_ok_iff.mpr ⟨hpair, rfl⟩
    exact ih (.insert h hi) hpairs

theorem built_of_ofPairs {pairs : List (String × String)} {ps : Properties}
    (h : ofPairs pairs = .ok ps) : ps.Built := by
  obtain ⟨hfree, rfl⟩ := ofPairs_eq_ok_iff.mp h
  exact Built.empty.putAll hfree

end Properties

end ModuleProxy
