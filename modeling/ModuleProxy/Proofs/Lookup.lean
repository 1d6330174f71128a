namespace ModuleProxy

variable {κ κ' α β : Type} [BEq κ] [LawfulBEq κ]

theorem lookup_map [BEq κ'] [LawfulBEq κ'] {f : κ → κ'} (hf : Function.Injective f) (g : α → β)
    (pairs : List (κ × α)) (key : κ) :
    (pairs.map fun pair => (f pair.1, g pair.2)).lookup (f key) = (pairs.lookup key).map g := by
  induction pairs with
  | nil => rfl
  | cons pair pairs ih =>
    have hsame : (f key == f pair.1) = (key == pair.1) := by
      rw [Bool.eq_iff_iff, beq_iff_eq, beq_iff_eq, hf.eq_iff]
    rw [List.map_cons, List.lookup_cons, List.lookup_cons, hsame, ih]
    split <;> rfl

theorem mem_of_lookup {key : κ} {a : α} {pairs : List (κ × α)} (h : pairs.lookup key = some a) :
    (key, a) ∈ pairs := by
  obtain ⟨before, after, rfl, -⟩ := List.lookup_eq_some_iff.mp h
  exact List.mem_append_right _ List.mem_cons_self

variable [DecidableEq κ]

theorem lookup_cons_eq_ite (key : κ) (pair : κ × α) (pairs : List (κ × α)) :
    (pair :: pairs).lookup key = if key = pair.1 then some pair.2 else pairs.lookup key := by
  rw [List.lookup_cons]
  by_cases hkey : key = pair.1
  · simp [hkey]
  · simp [hkey, beq_eq_false_iff_ne.mpr hkey]

theorem lookup_filter_ne (pairs : List (κ × α)) (key other : κ) :
    (pairs.filter (·.1 != key)).lookup other =
      if other = key then none else pairs.lookup other := by
  induction pairs with
  | nil => simp
  | cons pair pairs ih =>
    by_cases hpair : pair.1 = key
    · rw [List.filter_cons_of_neg (by simp [hpair]), ih, lookup_cons_eq_ite, hpair]
      split <;> rfl
    · rw [List.filter_cons_of_pos (by simp [hpair]), lookup_cons_eq_ite, lookup_cons_eq_ite, ih]
      by_cases hother : other = pair.1
      · rw [if_pos hother, if_pos hother, if_neg (hother ▸ hpair)]
      · rw [if_neg hother, if_neg hother]

theorem lookup_eq_some_iff_mem {key : κ} {a : α} {pairs : List (κ × α)}
    (hkeys : (pairs.map (·.1)).Nodup) : pairs.lookup key = some a ↔ (key, a) ∈ pairs := by
  induction pairs with
  | nil => simp
  | cons pair pairs ih =>
    obtain ⟨hfresh, hrest⟩ := List.nodup_cons.mp hkeys
    rw [lookup_cons_eq_ite, List.mem_cons, ← ih hrest]
    split
    · rename_i hkey
      have hnone : pairs.lookup key ≠ some a := by
        intro hlookup
        exact hfresh (List.mem_map.mpr ⟨(key, a), (ih hrest).mp hlookup, hkey⟩)
      simp [hkey, hkey ▸ hnone, Prod.ext_iff, eq_comm]
    · rename_i hkey
      simp [hkey, Prod.ext_iff]

end ModuleProxy
