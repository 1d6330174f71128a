import ModuleProxy.Host.Registry
import ModuleProxy.Proofs.Lookup

namespace ModuleProxy.Registry

variable {α β : Type}

@[simp] theorem get?_empty (id : ModuleId) : ({} : Registry α).get? id = none := rfl

theorem get?_erase (r : Registry α) (id other : ModuleId) :
    (r.erase id).get? other = if other = id then none else r.get? other :=
  lookup_filter_ne r.entries id other

theorem get?_insertWithId (r : Registry α) (id other : ModuleId) (a : α) :
    (r.insertWithId id a).get? other = if other = id then some a else r.get? other := by
  rw [get?, insertWithId, lookup_cons_eq_ite]
  split
  · rfl
  · rename_i hother
    exact (r.get?_erase id other).trans (if_neg hother)

def keys (r : Registry α) : List ModuleId :=
  r.entries.map (·.1)

theorem nodup_keys_erase {r : Registry α} (h : r.keys.Nodup) (id : ModuleId) :
    (r.erase id).keys.Nodup :=
  h.sublist (List.filter_sublist.map _)

theorem not_mem_keys_erase (r : Registry α) (id : ModuleId) : id ∉ (r.erase id).keys := by
  simp [keys, erase]

theorem nodup_keys_insertWithId {r : Registry α} (h : r.keys.Nodup) (id : ModuleId) (a : α) :
    (r.insertWithId id a).keys.Nodup :=
  List.nodup_cons.mpr ⟨r.not_mem_keys_erase id, nodup_keys_erase h id⟩

theorem mem_entries_iff {r : Registry α} (h : r.keys.Nodup) {id : ModuleId} {a : α} :
    (id, a) ∈ r.entries ↔ r.get? id = some a :=
  (lookup_eq_some_iff_mem h).symm

def map (f : α → β) (r : Registry α) : Registry β where
  entries := r.entries.map fun entry => (entry.1, f entry.2)
  nextId := r.nextId

theorem map_id (r : Registry α) : r.map id = r := by
  simp [map]

theorem get?_map (f : α → β) (r : Registry α) (id : ModuleId) :
    (r.map f).get? id = (r.get? id).map f :=
  lookup_map Function.injective_id f r.entries id

theorem erase_map (f : α → β) (r : Registry α) (id : ModuleId) :
    (r.map f).erase id = (r.erase id).map f := by
  simp [map, erase, List.filter_map, Function.comp_def]

theorem insertWithId_map (f : α → β) (r : Registry α) (id : ModuleId) (a : α) :
    (r.map f).insertWithId id (f a) = (r.insertWithId id a).map f := by
  rw [insertWithId, erase_map]
  rfl

end ModuleProxy.Registry
