import Mathlib.Data.List.Perm.Subperm
import ModuleProxy.Proofs.Message.OrderedMap

/-!
Equality of properties. It is decided from one side: as many pairs, and each of these found in the
other. No key comes twice, so that is the same pairs in some order, or the same values under the
same keys.
-/

namespace ModuleProxy.Properties

variable {a b c ps : Properties}

theorem Indexed.mem_toList_iff (h : ps.Indexed) {key value : String} :
    (key, value) ∈ ps.toList ↔ ps.get? key = some value := by
  rw [h.get?_eq_lookup, lookup_eq_some_iff_mem h.nodup_keys]

theorem Indexed.nodup_toList (h : ps.Indexed) : ps.toList.Nodup :=
  h.nodup_keys.of_map

theorem beq_eq_true_iff :
    (a == b) = true ↔
      a.toList.length = b.toList.length ∧ ∀ pair ∈ a.toList, b.get? pair.1 = some pair.2 := by
  have hunfold : (a == b) = beq a b := rfl
  simp only [hunfold, beq, Bool.and_eq_true, beq_iff_eq, List.all_eq_true, size, toList,
    Array.length_toList]

/-- The pigeonhole argument: what is as long and holds the other, without repetition, is no more
than the other. -/
theorem perm_of_beq (ha : a.Indexed) (hb : b.Indexed) (h : (a == b) = true) :
    a.toList.Perm b.toList := by
  obtain ⟨hlength, hfound⟩ := beq_eq_true_iff.mp h
  have hsubset : a.toList ⊆ b.toList := fun pair hpair => hb.mem_toList_iff.mpr (hfound pair hpair)
  exact (ha.nodup_toList.subperm hsubset).perm_of_length_le (Nat.le_of_eq hlength.symm)

theorem beq_of_perm (hb : b.Indexed) (h : a.toList.Perm b.toList) : (a == b) = true :=
  beq_eq_true_iff.mpr ⟨h.length_eq, fun _ hpair => hb.mem_toList_iff.mp (h.subset hpair)⟩

theorem beq_iff_perm (ha : a.Indexed) (hb : b.Indexed) :
    (a == b) = true ↔ a.toList.Perm b.toList :=
  ⟨perm_of_beq ha hb, beq_of_perm hb⟩

theorem perm_iff_get? (ha : a.Indexed) (hb : b.Indexed) :
    a.toList.Perm b.toList ↔ ∀ key, a.get? key = b.get? key := by
  rw [List.perm_ext_iff_of_nodup ha.nodup_toList hb.nodup_toList, Prod.forall]
  refine forall_congr' fun key => ?_
  simp only [ha.mem_toList_iff, hb.mem_toList_iff]
  exact Option.ext_iff.symm

theorem beq_iff_get? (ha : a.Indexed) (hb : b.Indexed) :
    (a == b) = true ↔ ∀ key, a.get? key = b.get? key :=
  (beq_iff_perm ha hb).trans (perm_iff_get? ha hb)

theorem beq_refl (ha : a.Indexed) : (a == a) = true :=
  (beq_iff_get? ha ha).mpr fun _ => rfl

theorem beq_symm (ha : a.Indexed) (hb : b.Indexed) (h : (a == b) = true) : (b == a) = true :=
  (beq_iff_get? hb ha).mpr fun key => ((beq_iff_get? ha hb).mp h key).symm

theorem beq_trans (ha : a.Indexed) (hb : b.Indexed) (hc : c.Indexed) (hab : (a == b) = true)
    (hbc : (b == c) = true) : (a == c) = true :=
  (beq_iff_get? ha hc).mpr fun key =>
    ((beq_iff_get? ha hb).mp hab key).trans ((beq_iff_get? hb hc).mp hbc key)

end ModuleProxy.Properties
