import Mathlib.Data.List.Induction
import ModuleProxy.Proofs.Lookup

namespace ModuleProxy

def upsert (key value : String) : List (String × String) → List (String × String)
  | [] => [(key, value)]
  | pair :: pairs => if pair.1 = key then (key, value) :: pairs else pair :: upsert key value pairs

def upsertAll (pairs new : List (String × String)) : List (String × String) :=
  new.foldl (fun pairs pair => upsert pair.1 pair.2 pairs) pairs

theorem upsertAll_concat (pairs new : List (String × String)) (pair : String × String) :
    upsertAll pairs (new ++ [pair]) = upsert pair.1 pair.2 (upsertAll pairs new) := by
  rw [upsertAll, List.foldl_append]
  rfl

theorem keys_upsert (key value : String) (pairs : List (String × String)) :
    (upsert key value pairs).map (·.1) =
      if key ∈ pairs.map (·.1) then pairs.map (·.1) else pairs.map (·.1) ++ [key] := by
  induction pairs with
  | nil => simp [upsert]
  | cons pair pairs ih =>
    by_cases hk : pair.1 = key
    · simp [upsert, hk]
    · simp only [upsert, hk, ↓reduceIte, List.map_cons, ih, List.mem_cons, Ne.symm hk, false_or]
      split <;> simp

theorem upsert_of_not_mem {key : String} (value : String) {pairs : List (String × String)}
    (h : key ∉ pairs.map (·.1)) : upsert key value pairs = pairs ++ [(key, value)] := by
  induction pairs with
  | nil => rfl
  | cons pair pairs ih =>
    simp only [List.map_cons, List.mem_cons, not_or] at h
    rw [upsert, if_neg (Ne.symm h.1), ih h.2, List.cons_append]

theorem lookup_upsert (key value k : String) (pairs : List (String × String)) :
    (upsert key value pairs).lookup k = if k = key then some value else pairs.lookup k := by
  induction pairs with
  | nil => simp [upsert]
  | cons pair pairs ih =>
    by_cases hk : pair.1 = key
    · rw [upsert, if_pos hk, lookup_cons_eq_ite, lookup_cons_eq_ite, hk]
      by_cases hkk : k = key <;> simp [hkk]
    · rw [upsert, if_neg hk, lookup_cons_eq_ite, lookup_cons_eq_ite, ih]
      by_cases hkk : k = pair.1
      · simp [hkk, hk]
      · simp [hkk]

theorem modify_eq_upsert {key old : String} (value : String) {pairs : List (String × String)}
    {slot : Nat} (hslot : pairs[slot]? = some (key, old)) (hkeys : (pairs.map (·.1)).Nodup) :
    pairs.modify slot (fun pair => (pair.1, value)) = upsert key value pairs := by
  induction pairs generalizing slot with
  | nil => simp at hslot
  | cons pair pairs ih =>
    rw [List.map_cons, List.nodup_cons] at hkeys
    cases slot with
    | zero =>
      obtain rfl : pair = (key, old) := by simpa using hslot
      simp [upsert]
    | succ slot =>
      rw [List.getElem?_cons_succ] at hslot
      have hne : pair.1 ≠ key := by
        rintro rfl
        exact hkeys.1 (List.mem_map.mpr ⟨_, List.mem_of_getElem? hslot, rfl⟩)
      rw [upsert, if_neg hne, List.modify_succ_cons, ih hslot hkeys.2]

theorem keys_upsertAll (pairs : List (String × String)) :
    (upsertAll [] pairs).map (·.1) = (pairs.map (·.1)).eraseDups := by
  induction pairs using List.reverseRecOn with
  | nil => rfl
  | append_singleton pairs pair ih =>
    rw [upsertAll_concat, keys_upsert, ih, List.map_append, List.eraseDups_append]
    by_cases hmem : pair.1 ∈ pairs.map (·.1)
    · simp [List.mem_eraseDups, hmem, List.removeAll]
    · simp [List.mem_eraseDups, hmem, List.removeAll, List.eraseDups_cons]

theorem lookup_upsertAll (pairs : List (String × String)) (key : String) :
    (upsertAll [] pairs).lookup key = pairs.reverse.lookup key := by
  induction pairs using List.reverseRecOn with
  | nil => rfl
  | append_singleton pairs pair ih =>
    rw [upsertAll_concat, lookup_upsert, ih, List.reverse_append, List.reverse_singleton,
      List.singleton_append, lookup_cons_eq_ite]

theorem upsertAll_of_nodup {pairs new : List (String × String)}
    (h : ((pairs ++ new).map (·.1)).Nodup) : upsertAll pairs new = pairs ++ new := by
  induction new generalizing pairs with
  | nil => simp [upsertAll]
  | cons pair new ih =>
    have hnot : pair.1 ∉ pairs.map (·.1) := by
      rw [List.map_append, List.nodup_append] at h
      intro hmem
      exact h.2.2 _ hmem _ (by simp) rfl
    have happ : pairs ++ pair :: new = pairs ++ [pair] ++ new := by simp
    rw [happ] at h ⊢
    rw [← ih h]
    simp [upsertAll, upsert_of_not_mem _ hnot]

end ModuleProxy
