import Mathlib.Data.List.Induction
import ModuleProxy.Proofs.Host.FreeIds

/-!
The numbers that a registry gives out. The search for one goes up from the number after the last
and ends at one that is free; while there were fewer values stored than there are numbers, it has
not come around, and no number is given out twice.
-/

namespace ModuleProxy

inductive RegistryCall (α : Type) where
  | insert (a : α)
  | insertWithId (id : ModuleId) (a : α)
  | remove (id : ModuleId)
  | lookup (id : ModuleId) (change : α → α)

namespace RegistryCall

variable {α : Type} {r : Registry α}

def isStore : RegistryCall α → Bool
  | insert _ | insertWithId .. => true
  | remove _ | lookup .. => false

def on (r : Registry α) : RegistryCall α → Option ModuleId × Registry α
  | insert a => (some (r.insert a).1, (r.insert a).2)
  | insertWithId id a => (none, r.insertWithId id a)
  | remove id => (none, r.erase id)
  | lookup id change => (none, (r.get? id).elim r fun a => r.insertWithId id (change a))

def run (calls : List (RegistryCall α)) : Registry α × List ModuleId :=
  calls.foldl (fun s call => ((call.on s.1).2, s.2 ++ (call.on s.1).1.toList)) ({}, [])

theorem run_concat (calls : List (RegistryCall α)) (call : RegistryCall α) :
    run (calls ++ [call]) =
      ((call.on (run calls).1).2, (run calls).2 ++ (call.on (run calls).1).1.toList) := by
  rw [run, List.foldl_append]
  rfl

/-- The registry has come to the number `reached` places above 1. On the way it passed only numbers
under which a value was stored at some time, and gave out each number at most once. -/
structure Numbered (r : Registry α) (stored given : List ModuleId) (reached : Nat) : Prop where
  nextId_eq : r.nextId = 1 + .ofNat reached
  passed : ∀ n < reached, 1 + .ofNat n ∈ stored
  nodup_keys : r.keys.Nodup
  keys_subset : r.keys ⊆ stored
  given_below : ∀ id ∈ given, ∃ n < reached, id = 1 + .ofNat n
  given_nodup : given.Nodup

namespace Numbered

variable {stored given : List ModuleId} {reached : Nat}

theorem initial : Numbered ({} : Registry α) [] [] 0 where
  nextId_eq := rfl
  passed := nofun
  nodup_keys := List.nodup_nil
  keys_subset := List.nil_subset _
  given_below := nofun
  given_nodup := List.nodup_nil

theorem size_le (h : Numbered r stored given reached) : r.size ≤ stored.length :=
  r.length_keys ▸ h.nodup_keys.length_le_of_subset h.keys_subset

theorem of_search {id found : ModuleId} (hsearch : r.Search id found) {n : Nat}
    (hid : id = 1 + .ofNat n) (hpassed : ∀ k < n, 1 + .ofNat k ∈ stored)
    (hkeys : r.keys ⊆ stored) :
    ∃ m, n ≤ m ∧ found = 1 + .ofNat m ∧ ∀ k < m, 1 + .ofNat k ∈ stored := by
  induction hsearch generalizing n with
  | here => exact ⟨n, Nat.le_refl n, hid, hpassed⟩
  | onward htaken _ ih =>
    have hstored : 1 + .ofNat n ∈ stored := hkeys (hid ▸ Registry.mem_keys_of_contains htaken)
    have hnext : ∀ k < n + 1, 1 + .ofNat k ∈ stored :=
      Nat.forall_lt_succ_right.mpr ⟨hpassed, hstored⟩
    obtain ⟨m, hm, hfound⟩ := ih (by rw [hid, Registry.add_ofNat_succ]) hnext
    exact ⟨m, Nat.le_of_succ_le hm, hfound⟩

theorem keep (h : Numbered r stored given reached) (next : Registry α)
    (hnext : next.nextId = r.nextId) (hnodup : next.keys.Nodup) (hkeys : next.keys ⊆ r.keys) :
    Numbered next stored given reached where
  nextId_eq := hnext.trans h.nextId_eq
  passed := h.passed
  nodup_keys := hnodup
  keys_subset := List.Subset.trans hkeys h.keys_subset
  given_below := h.given_below
  given_nodup := h.given_nodup

theorem store (h : Numbered r stored given reached) (id : ModuleId) (a : α) :
    Numbered (r.insertWithId id a) (stored ++ [id]) given reached where
  nextId_eq := h.nextId_eq
  passed n hn := List.mem_append_left _ (h.passed n hn)
  nodup_keys := Registry.nodup_keys_insertWithId h.nodup_keys id a
  keys_subset := by
    intro key hkey
    obtain rfl | hkey := List.mem_cons.mp (Registry.keys_insertWithId_subset r id a hkey)
    · exact List.mem_append_right _ (List.mem_singleton_self key)
    · exact List.mem_append_left _ (h.keys_subset hkey)
  given_below := h.given_below
  given_nodup := h.given_nodup

theorem insert (h : Numbered r stored given reached) (hroom : stored.length < UInt64.size)
    (a : α) :
    ∃ further, Numbered (r.insert a).2 (stored ++ [(r.insert a).1]) (given ++ [(r.insert a).1])
      further := by
  have hsearch : r.Search r.nextId r.freeId :=
    Registry.search_freeId (Nat.lt_of_le_of_lt h.size_le hroom)
  obtain ⟨n, hn, hfound, hpassed⟩ := of_search hsearch h.nextId_eq h.passed h.keys_subset
  -- All that was passed was stored under, and that is fewer than there are numbers.
  have hsmall : n ≤ stored.length := Registry.le_length_of_row hroom hpassed
  have hstored : Numbered (r.insertWithId r.freeId a) (stored ++ [r.freeId]) given reached :=
    h.store r.freeId a
  refine ⟨n + 1, ?_, ?_, hstored.nodup_keys, hstored.keys_subset, ?_, ?_⟩
  · change r.freeId + 1 = _
    rw [hfound, Registry.add_ofNat_succ]
  · rw [Nat.forall_lt_succ_right]
    refine ⟨fun k hk => List.mem_append_left _ (hpassed k hk), ?_⟩
    exact List.mem_append_right _ (hfound ▸ List.mem_singleton_self _)
  · intro id hid
    obtain hid | hid := List.mem_append.mp hid
    · obtain ⟨k, hk, rfl⟩ := h.given_below id hid
      exact ⟨k, by omega, rfl⟩
    · exact ⟨n, Nat.lt_succ_self n, (List.mem_singleton.mp hid).trans hfound⟩
  · apply List.nodup_append.mpr
    refine ⟨h.given_nodup, List.nodup_singleton _, ?_⟩
    rintro id hid found hmem rfl
    obtain ⟨k, hk, rfl⟩ := h.given_below id hid
    have hsame := (List.mem_singleton.mp hmem).trans hfound
    have := Registry.add_ofNat_injOn (by omega) (by omega) hsame
    omega

theorem erase (h : Numbered r stored given reached) (id : ModuleId) :
    Numbered (r.erase id) stored given reached :=
  h.keep _ rfl (Registry.nodup_keys_erase h.nodup_keys id) (List.filter_sublist.map _).subset

theorem change (h : Numbered r stored given reached) (id : ModuleId) (f : α → α) :
    Numbered ((r.get? id).elim r fun a => r.insertWithId id (f a)) stored given reached := by
  cases hget : r.get? id with
  | none => exact h
  | some a =>
    have hmem : id ∈ r.keys := Registry.mem_keys_of_contains (by simp [Registry.contains, hget])
    have hnodup := Registry.nodup_keys_insertWithId h.nodup_keys id (f a)
    refine h.keep (r.insertWithId id (f a)) rfl hnodup ?_
    intro key hkey
    obtain rfl | hkey := List.mem_cons.mp (r.keys_insertWithId_subset id (f a) hkey)
    · exact hmem
    · exact hkey

theorem act (h : Numbered r stored given reached) (hroom : stored.length < UInt64.size)
    (call : RegistryCall α) :
    ∃ more further, Numbered (call.on r).2 (stored ++ more) (given ++ (call.on r).1.toList) further ∧
      more.length = if call.isStore then 1 else 0 := by
  cases call with
  | insert a =>
    obtain ⟨further, hnext⟩ := h.insert hroom a
    exact ⟨[(r.insert a).1], further, hnext, rfl⟩
  | insertWithId id a =>
    refine ⟨[id], reached, ?_, rfl⟩
    simpa [on] using h.store id a
  | remove id =>
    refine ⟨[], reached, ?_, rfl⟩
    simpa [on] using h.erase id
  | lookup id f =>
    refine ⟨[], reached, ?_, rfl⟩
    simpa [on] using h.change id f

end Numbered

theorem numbered_run (calls : List (RegistryCall α)) (h : calls.countP isStore < UInt64.size) :
    ∃ stored reached, Numbered (run calls).1 stored (run calls).2 reached ∧
      stored.length = calls.countP isStore := by
  induction calls using List.reverseRecOn with
  | nil => exact ⟨[], 0, .initial, rfl⟩
  | append_singleton calls call ih =>
    rw [List.countP_append] at h
    obtain ⟨stored, reached, hnumbered, hlength⟩ := ih (by omega)
    obtain ⟨more, further, hnext, hmore⟩ := hnumbered.act (by omega) call
    refine ⟨stored ++ more, further, run_concat calls call ▸ hnext, ?_⟩
    rw [List.length_append, List.countP_append, hlength, hmore, List.countP_singleton]

/-- With fewer values stored than there are numbers, the search for a number always ends. It ends at
one without a value, which is that of the new value from then on, with all others as they were; and
no number is given out twice. -/
theorem numbers_fresh (calls : List (RegistryCall α))
    (h : calls.countP isStore < UInt64.size - 1) :
    (run calls).2.Nodup ∧
    ∀ before a, before ++ [.insert a] <+: calls →
      let r := (run before).1
      let id := (r.insert a).1
      let next := (r.insert a).2
      (∀ found, r.Search r.nextId found ↔ found = id) ∧
        r.get? id = none ∧ next.get? id = some a ∧
        (∀ other, other ≠ id → next.get? other = r.get? other) ∧
        next.entries = (id, a) :: r.entries := by
  refine ⟨?_, ?_⟩
  · obtain ⟨stored, reached, hnumbered, -⟩ := numbered_run calls (by omega)
    exact hnumbered.given_nodup
  · intro before a hprefix r id next
    have hcount : before.countP isStore ≤ calls.countP isStore := by
      have hsublist := ((List.prefix_append before [.insert a]).trans hprefix).sublist
      exact hsublist.countP_le
    obtain ⟨stored, reached, hnumbered, hlength⟩ := numbered_run before (by omega)
    have hsize : r.size ≤ stored.length := hnumbered.size_le
    have hsearch : r.Search r.nextId id := Registry.search_freeId (by omega)
    have hfree : r.contains id = false := hsearch.contains_eq_false
    have hget := r.get?_insertWithId id
    refine ⟨fun found => ⟨hsearch.unique, ?_⟩, Registry.get?_eq_none hfree, ?_, ?_,
      Registry.insertWithId_entries hfree a⟩
    · rintro rfl
      exact hsearch
    · exact (hget id a).trans (if_pos rfl)
    · intro other hother
      exact (hget other a).trans (if_neg hother)

theorem numbers_fresh_around_chosen :
    let before : List (RegistryCall String) :=
      [.insertWithId 1 "a", .insertWithId 0 "b", .insertWithId 18446744073709551615 "c",
        .insert "d", .remove 2, .insertWithId 3 "e"]
    let calls := before ++ [.insert "f"]
    calls.countP isStore < UInt64.size - 1 ∧ (run calls).2 = [2, 4] ∧ (run calls).2.Nodup ∧
      (run before).1.get? 4 = none ∧ (run calls).1.get? 4 = some "f" := by
  intro before calls
  have hroom : calls.countP isStore < UInt64.size - 1 := by decide
  have hgiven : (run calls).2 = [2, 4] := by decide
  obtain ⟨hnodup, hfresh⟩ := numbers_fresh calls hroom
  obtain ⟨-, hnone, hsome, -⟩ := hfresh before "f" (List.prefix_refl calls)
  exact ⟨hroom, hgiven, hnodup, hnone, hsome⟩

end RegistryCall

end ModuleProxy
