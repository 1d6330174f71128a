import Mathlib.Data.List.Nodup
import ModuleProxy.Proofs.Host.Registry

namespace ModuleProxy

namespace Registry

variable {α : Type} {r : Registry α} {id found : ModuleId}

inductive Search (r : Registry α) : ModuleId → ModuleId → Prop where
  | here {id : ModuleId} (h : r.contains id = false) : Search r id id
  | onward {id found : ModuleId} (h : r.contains id = true) (hnext : Search r (id + 1) found) :
    Search r id found

theorem Search.contains_eq_false (h : r.Search id found) : r.contains found = false := by
  induction h with
  | here h => exact h
  | onward _ _ ih => exact ih

theorem Search.unique {other : ModuleId} (h : r.Search id found) (hother : r.Search id other) :
    other = found := by
  induction h with
  | here h =>
    cases hother with
    | here => rfl
    | onward htaken => rw [h] at htaken; cases htaken
  | onward h _ ih =>
    cases hother with
    | here hfree => rw [h] at hfree; cases hfree
    | onward _ hnext => exact ih hnext

theorem mem_keys_of_contains (h : r.contains id = true) : id ∈ r.keys := by
  obtain ⟨entry, hentry, hkey⟩ := List.lookup_isSome_iff.mp h
  exact List.mem_map.mpr ⟨entry, hentry, (beq_iff_eq.mp hkey).symm⟩

theorem add_ofNat_injOn {m n : Nat} (hm : m < UInt64.size) (hn : n < UInt64.size)
    (h : id + .ofNat m = id + .ofNat n) : m = n := by
  have hvalue := congrArg UInt64.toNat ((UInt64.add_right_inj id).mp h)
  rwa [UInt64.toNat_ofNat_of_lt' hm, UInt64.toNat_ofNat_of_lt' hn] at hvalue

theorem add_ofNat_succ (id : ModuleId) (n : Nat) : id + .ofNat n + 1 = id + .ofNat (n + 1) := by
  rw [UInt64.ofNat_add, UInt64.add_assoc]
  rfl

theorem le_length_of_row {ids : List ModuleId} {count : Nat} (hroom : ids.length < UInt64.size)
    (h : ∀ n < count, id + .ofNat n ∈ ids) : count ≤ ids.length := by
  by_contra hlt
  let row := (List.range (ids.length + 1)).map fun n => id + .ofNat n
  have hrow : row.Nodup := by
    apply List.Nodup.map_on _ List.nodup_range
    intro m hm n hn heq
    rw [List.mem_range] at hm hn
    exact add_ofNat_injOn (by omega) (by omega) heq
  have hsubset : row ⊆ ids := by
    intro other hother
    obtain ⟨n, hn, rfl⟩ := List.mem_map.mp hother
    rw [List.mem_range] at hn
    exact h n (by omega)
  have hlength : row.length = ids.length + 1 := by simp [row]
  have := hrow.length_le_of_subset hsubset
  omega

theorem length_keys (r : Registry α) : r.keys.length = r.size := by
  simp [keys, size]

theorem exists_free (hsize : r.size < UInt64.size) (id : ModuleId) :
    ∃ n ≤ r.size, r.contains (id + .ofNat n) = false := by
  by_contra hnone
  simp only [not_exists, not_and, Bool.not_eq_false] at hnone
  rw [← r.length_keys] at hsize hnone
  -- One more number in a row would be in use than there are entries.
  have hrow : r.keys.length + 1 ≤ r.keys.length := by
    apply le_length_of_row hsize
    intro n hn
    exact mem_keys_of_contains (hnone n (Nat.le_of_lt_succ hn))
  exact Nat.not_succ_le_self _ hrow

theorem search_freeFrom {steps : Nat}
    (h : ∃ n ≤ steps, r.contains (id + .ofNat n) = false) : r.Search id (r.freeFrom steps id) := by
  induction steps generalizing id with
  | zero =>
    obtain ⟨n, hn, hfree⟩ := h
    obtain rfl := Nat.le_zero.mp hn
    exact .here (by simpa using hfree)
  | succ steps ih =>
    obtain ⟨n, hn, hfree⟩ := h
    rw [freeFrom]
    split
    · rename_i htaken
      apply Search.onward htaken
      apply ih
      cases n with
      | zero => simp [htaken] at hfree
      | succ n =>
        refine ⟨n, Nat.le_of_succ_le_succ hn, ?_⟩
        rwa [UInt64.add_assoc, UInt64.add_comm 1, ← UInt64.add_assoc, add_ofNat_succ]
    · rename_i hfree
      exact .here (by simpa using hfree)

theorem search_freeId (hsize : r.size < UInt64.size) : r.Search r.nextId r.freeId :=
  search_freeFrom (exists_free hsize r.nextId)

theorem get?_eq_none (h : r.contains id = false) : r.get? id = none := by
  simpa [contains] using h

theorem insertWithId_entries (h : r.contains id = false) (a : α) :
    (r.insertWithId id a).entries = (id, a) :: r.entries := by
  have hother : ∀ entry ∈ r.entries, (entry.1 != id) = true := by
    have hnone := List.lookup_eq_none_iff.mp (get?_eq_none h)
    intro entry hentry
    rw [bne_comm]
    exact hnone entry hentry
  rw [insertWithId, erase, List.filter_eq_self.mpr hother]

theorem keys_insertWithId_subset (r : Registry α) (id : ModuleId) (a : α) :
    (r.insertWithId id a).keys ⊆ id :: r.keys := by
  apply List.cons_subset_cons
  exact (List.filter_sublist.map _).subset

end Registry

end ModuleProxy
