import Mathlib.Tactic.ByContra
import ModuleProxy.Proofs.Host.Moves

namespace ModuleProxy

variable {μ : Type}

/-- What an instance that was loaded has seen. -/
inductive Life : List ModuleCall → Prop where
  | refused : Life [.create false]
  | running {work : List ModuleCall} (hwork : ∀ call ∈ work, call.IsWork) :
    Life (.create true :: work)
  | ended {work : List ModuleCall} (hwork : ∀ call ∈ work, call.IsWork) :
    Life (.create true :: (work ++ [.destroy]))

theorem Life.exists_work {calls : List ModuleCall} (h : Life calls)
    (hcreate : .create true ∈ calls) (hdestroy : .destroy ∉ calls) :
    ∃ work, (∀ call ∈ work, call.IsWork) ∧ calls = .create true :: work := by
  cases h with
  | refused => simp at hcreate
  | @running work hwork => exact ⟨work, hwork, rfl⟩
  | ended hwork => simp at hdestroy

theorem Life.work {calls : List ModuleCall} (h : Life calls) (hcreate : .create true ∈ calls)
    (hdestroy : .destroy ∉ calls) {call : ModuleCall} (hcall : call.IsWork) :
    Life (calls ++ [call]) := by
  obtain ⟨work, hwork, rfl⟩ := h.exists_work hcreate hdestroy
  apply Life.running
  intro c hc
  obtain hc | hc := List.mem_append.mp hc
  · exact hwork c hc
  · exact List.mem_singleton.mp hc ▸ hcall

theorem Life.destroy {calls : List ModuleCall} (h : Life calls) (hcreate : .create true ∈ calls)
    (hdestroy : .destroy ∉ calls) : Life (calls ++ [.destroy]) := by
  obtain ⟨work, hwork, rfl⟩ := h.exists_work hcreate hdestroy
  exact .ended hwork

namespace ModuleHost

def serialAt (h : ModuleHost (Loaded μ)) (id : ModuleId) : Option Nat :=
  (h.modules.get? id).map Loaded.serial

theorem serialAt_of_get? {h : ModuleHost (Loaded μ)} {id : ModuleId} {m : Loaded μ}
    (hget : h.modules.get? id = some m) : h.serialAt id = some m.serial := by
  rw [serialAt, hget, Option.map_some]

theorem serialAt_erase (h : ModuleHost (Loaded μ)) (id other : ModuleId) :
    serialAt ⟨h.modules.erase id⟩ other = if other = id then none else h.serialAt other := by
  simp only [serialAt, Registry.get?_erase]
  split <;> rfl

theorem serialAt_insertWithId (h : ModuleHost (Loaded μ)) (id other : ModuleId) (m : Loaded μ) :
    serialAt ⟨h.modules.insertWithId id m⟩ other =
      if other = id then some m.serial else h.serialAt other := by
  simp only [serialAt, Registry.get?_insertWithId]
  split <;> rfl

theorem exists_entry_iff {h : ModuleHost (Loaded μ)} (hkeys : h.modules.keys.Nodup) {n : Nat} :
    (∃ entry ∈ h.modules.entries, entry.2.serial = n) ↔ ∃ id, h.serialAt id = some n := by
  simp [serialAt, Prod.exists, Registry.mem_entries_iff hkeys]

end ModuleHost

open HostCall

structure Lives (h : ModuleHost (Loaded μ)) (calls : List HostCall) : Prop where
  keys : h.modules.keys.Nodup
  apart : ∀ {id other : ModuleId} {n : Nat}, h.serialAt id = some n → h.serialAt other = some n →
    id = other
  loaded : ∀ n < loads calls, Life (onInstance n calls)
  unloaded : ∀ n, loads calls ≤ n → onInstance n calls = []
  registered : ∀ n, (∃ entry ∈ h.modules.entries, entry.2.serial = n) ↔
    .create true ∈ onInstance n calls ∧ .destroy ∉ onInstance n calls

namespace Lives

variable {h h' : ModuleHost (Loaded μ)} {calls calls' : List HostCall}

theorem initial : Lives ({} : ModuleHost (Loaded μ)) [] := by
  refine ⟨List.nodup_nil, ?_, ?_, fun _ _ => rfl, ?_⟩
  · simp [ModuleHost.serialAt]
  · simp [loads]
  · simp [onInstance]

theorem exists_serialAt_iff (hl : Lives h calls) (n : Nat) : (∃ id, h.serialAt id = some n) ↔
    .create true ∈ onInstance n calls ∧ .destroy ∉ onInstance n calls :=
  (ModuleHost.exists_entry_iff hl.keys).symm.trans (hl.registered n)

theorem lt_loads (hl : Lives h calls) {id : ModuleId} {n : Nat} (hid : h.serialAt id = some n) :
    n < loads calls := by
  by_contra hle
  have hcreate := ((hl.exists_serialAt_iff n).mp ⟨id, hid⟩).1
  rw [hl.unloaded n (by omega)] at hcreate
  cases hcreate

theorem serial_ne (hl : Lives h calls) {id other : ModuleId} {m m' : Loaded μ} (hne : id ≠ other)
    (hget : h.modules.get? id = some m) (hother : h.modules.get? other = some m') :
    m.serial ≠ m'.serial := by
  intro heq
  have hid := ModuleHost.serialAt_of_get? hget
  rw [heq] at hid
  exact hne (hl.apart hid (ModuleHost.serialAt_of_get? hother))

theorem change (hl : Lives h calls) (k : Nat) (hkeys : h'.modules.keys.Nodup)
    (hapart : ∀ {id other : ModuleId} {n : Nat}, h'.serialAt id = some n →
      h'.serialAt other = some n → id = other)
    (hcalls : ∀ n ≠ k, onInstance n calls' = onInstance n calls)
    (hloads : ∀ n ≠ k, n < loads calls' ↔ n < loads calls) (hk : k < loads calls')
    (hothers : ∀ n ≠ k, (∃ id, h'.serialAt id = some n) ↔ ∃ id, h.serialAt id = some n)
    (hlife : Life (onInstance k calls'))
    (hregistered : (∃ id, h'.serialAt id = some k) ↔
      .create true ∈ onInstance k calls' ∧ .destroy ∉ onInstance k calls') : Lives h' calls' := by
  refine ⟨hkeys, hapart, fun n hn => ?_, fun n hn => ?_, fun n => ?_⟩
  · by_cases hnk : n = k
    · exact hnk ▸ hlife
    · rw [hcalls n hnk]
      exact hl.loaded n ((hloads n hnk).mp hn)
  · have hnk : n ≠ k := by omega
    rw [hcalls n hnk]
    apply hl.unloaded
    have := hloads n hnk
    omega
  · rw [ModuleHost.exists_entry_iff hkeys]
    by_cases hnk : n = k
    · exact hnk ▸ hregistered
    · rw [hcalls n hnk, hothers n hnk]
      exact hl.exists_serialAt_iff n

theorem destroy (hl : Lives h calls) {id : ModuleId} {m : Loaded μ}
    (hget : h.modules.get? id = some m) :
    Lives ⟨h.modules.erase id⟩ (calls ++ [.on m.serial .destroy]) := by
  have hid := ModuleHost.serialAt_of_get? hget
  have hlive := (hl.exists_serialAt_iff m.serial).mp ⟨id, hid⟩
  have hlt := hl.lt_loads hid
  -- the instance under `id` has its last call, and is no longer there
  apply hl.change m.serial
  · exact Registry.nodup_keys_erase hl.keys id
  · intro id' other n hid' hother
    rw [ModuleHost.serialAt_erase, Option.ite_none_left_eq_some] at hid' hother
    exact hl.apart hid'.2 hother.2
  · intro n hn
    simp [onInstance, onInstance?, hn.symm]
  · intro n hn
    simp [loads]
  · simpa [loads] using hlt
  · intro n hn
    simp only [ModuleHost.serialAt_erase, Option.ite_none_left_eq_some]
    constructor
    · rintro ⟨other, -, hother⟩
      exact ⟨other, hother⟩
    · rintro ⟨other, hother⟩
      refine ⟨other, ?_, hother⟩
      rintro rfl
      exact hn (Option.some.inj (hother.symm.trans hid))
  · rw [onInstance_append]
    have hlife := (hl.loaded m.serial hlt).destroy hlive.1 hlive.2
    simpa [onInstance, onInstance?] using hlife
  · apply iff_of_false
    · rintro ⟨other, hother⟩
      rw [ModuleHost.serialAt_erase, Option.ite_none_left_eq_some] at hother
      exact hother.1 (hl.apart hother.2 hid)
    · simp [onInstance, onInstance?]

theorem loadFailed (hl : Lives h calls) : Lives h (calls ++ [.load false]) := by
  have hcalls : ∀ n, onInstance n (calls ++ [.load false]) = onInstance n calls := by
    simp [onInstance, onInstance?]
  have hloads : loads (calls ++ [.load false]) = loads calls := by
    simp [loads]
  refine ⟨hl.keys, hl.apart, ?_, ?_, ?_⟩
  · simpa only [hcalls, hloads] using hl.loaded
  · simpa only [hcalls, hloads] using hl.unloaded
  · simpa only [hcalls] using hl.registered

theorem onInstance_created (hl : Lives h calls) (accepted : Bool) :
    onInstance (loads calls) (calls ++ [.load true, .on (loads calls) (.create accepted)]) =
      [.create accepted] := by
  rw [onInstance_append, hl.unloaded _ (Nat.le_refl _)]
  simp [onInstance, onInstance?, List.filterMap_cons]

theorem refuse (hl : Lives h calls) :
    Lives h (calls ++ [.load true, .on (loads calls) (.create false)]) := by
  apply hl.change (loads calls) hl.keys hl.apart
  · intro n hn
    simp [onInstance, onInstance?, hn.symm]
  · intro n hn
    simp only [loads] at hn ⊢
    simp
    omega
  · simp [loads]
  · simp
  · rw [hl.onInstance_created]
    exact .refused
  · rw [hl.onInstance_created, hl.exists_serialAt_iff, hl.unloaded _ (Nat.le_refl _)]
    simp

theorem accept (hl : Lives h calls) {id : ModuleId} {m : Loaded μ}
    (hfree : h.modules.get? id = none) (hserial : m.serial = loads calls) :
    Lives ⟨h.modules.insertWithId id m⟩
      (calls ++ [.load true, .on (loads calls) (.create true)]) := by
  have hnone : h.serialAt id = none := by simp [ModuleHost.serialAt, hfree]
  -- the number of a new instance is no other's
  have hfresh : ∀ other, h.serialAt other ≠ some (loads calls) := fun other hother =>
    Nat.lt_irrefl _ (hl.lt_loads hother)
  apply hl.change (loads calls)
  · exact Registry.nodup_keys_insertWithId hl.keys id m
  · intro id' other n hid' hother
    rw [ModuleHost.serialAt_insertWithId, hserial] at hid' hother
    split at hid' <;> split at hother
    · rename_i heq heq'
      exact heq.trans heq'.symm
    · exact absurd (hother.trans hid'.symm) (hfresh other)
    · exact absurd (hid'.trans hother.symm) (hfresh id')
    · exact hl.apart hid' hother
  · intro n hn
    simp [onInstance, onInstance?, hn.symm]
  · intro n hn
    simp only [loads] at hn ⊢
    simp
    omega
  · simp [loads]
  · intro n hn
    simp only [ModuleHost.serialAt_insertWithId, hserial]
    constructor
    · rintro ⟨other, hother⟩
      split at hother
      · exact absurd (Option.some.inj hother).symm hn
      · exact ⟨other, hother⟩
    · rintro ⟨other, hother⟩
      have hne : other ≠ id := by
        rintro rfl
        simp [hnone] at hother
      exact ⟨other, by rwa [if_neg hne]⟩
  · rw [hl.onInstance_created]
    exact .running (by simp)
  · rw [hl.onInstance_created]
    apply iff_of_true
    · exact ⟨id, by simp [ModuleHost.serialAt_insertWithId, hserial]⟩
    · simp

theorem work (hl : Lives h calls) {id : ModuleId} {m m' : Loaded μ} {call : ModuleCall}
    (hget : h.modules.get? id = some m) (hserial : m'.serial = m.serial) (hcall : call.IsWork) :
    Lives ⟨h.modules.insertWithId id m'⟩ (calls ++ [.on m.serial call]) := by
  have hid := ModuleHost.serialAt_of_get? hget
  have hlive := (hl.exists_serialAt_iff m.serial).mp ⟨id, hid⟩
  have hlt := hl.lt_loads hid
  have hsame : ∀ other, ModuleHost.serialAt ⟨h.modules.insertWithId id m'⟩ other =
      h.serialAt other := by
    intro other
    rw [ModuleHost.serialAt_insertWithId, hserial]
    split
    · rename_i hother
      rw [hother, hid]
    · rfl
  apply hl.change m.serial
  · exact Registry.nodup_keys_insertWithId hl.keys id m'
  · intro id' other n hid' hother
    rw [hsame] at hid' hother
    exact hl.apart hid' hother
  · intro n hn
    simp [onInstance, onInstance?, hn.symm]
  · intro n hn
    simp [loads]
  · simpa [loads] using hlt
  · intro n hn
    simp only [hsame]
  · rw [onInstance_append]
    have hlife := (hl.loaded m.serial hlt).work hlive.1 hlive.2 hcall
    simpa [onInstance, onInstance?] using hlife
  · simp only [hsame]
    apply iff_of_true ⟨id, hid⟩
    have hne : ModuleCall.destroy ≠ call := by
      rintro rfl
      simp [ModuleCall.IsWork] at hcall
    simp only [onInstance_append, List.mem_append]
    exact ⟨.inl hlive.1, not_or.mpr ⟨hlive.2, by simpa [onInstance, onInstance?] using hne⟩⟩

theorem move {id : ModuleId} {now after : ModuleHost (Loaded μ) × List HostCall}
    (hl : Lives now.1 now.2) (hmove : HostMove id now after) : Lives after.1 after.2 := by
  cases hmove with
  | destroy hget => exact hl.destroy hget
  | loadFailed => exact hl.loadFailed
  | refuse => exact hl.refuse
  | accept hfree hserial => exact hl.accept hfree hserial
  | work hget hserial hcall => exact hl.work hget hserial hcall

theorem moves {id : ModuleId} {now after : ModuleHost (Loaded μ) × List HostCall}
    (hl : Lives now.1 now.2) (hmoves : HostMoves id now after) : Lives after.1 after.2 := by
  induction hmoves with
  | refl => exact hl
  | tail _ hmove ih => exact ih.move hmove

end Lives

end ModuleProxy
