import ModuleProxy.Proofs.Files
import ModuleProxy.Socket.System

namespace ModuleProxy

namespace FileTree

def LeadsTo (t : FileTree) (path : String) (id : ListenerId) : Prop :=
  ∃ mode, t.lookup path = .ok (.socket id mode)

def identityAt (t : FileTree) (identity : ListenerId → UInt64 × UInt64) (path : String) :
    Option (UInt64 × UInt64) :=
  match t.lookup path with
  | .ok (.socket owner _) => some (identity owner)
  | _ => none

def HasSocket (t : FileTree) (owner : ListenerId) : Prop :=
  ∃ place mode, t.get? place = some (.socket owner mode)

variable {t t' : FileTree} {path : String} {id owner : ListenerId} {place : List String}

theorem leadsTo_iff :
    t.LeadsTo path id ↔
      ∃ place mode, t.resolve path = .ok place ∧ t.get? place = some (.socket id mode) := by
  simp only [LeadsTo, lookup_eq_ok_iff]
  exact exists_comm

theorem leadsTo_iff_identityAt {identity : ListenerId → UInt64 × UInt64}
    (h : ∀ owner, t.HasSocket owner → identity owner = identity id → owner = id) :
    t.LeadsTo path id ↔ t.identityAt identity path = some (identity id) := by
  constructor
  · rintro ⟨mode, hlookup⟩
    rw [identityAt, hlookup]
  · intro hidentity
    unfold identityAt at hidentity
    split at hidentity
    · rename_i owner mode hlookup
      obtain ⟨place, -, hnode⟩ := lookup_eq_ok_iff.mp hlookup
      rw [h owner ⟨place, mode, hnode⟩ (Option.some.inj hidentity)] at hlookup
      exact ⟨mode, hlookup⟩
    · cases hidentity

theorem LeadsTo.changed (h : t.LeadsTo path id)
    (hplace : t.get? place ≠ some .directory) (hne : t.resolve path ≠ .ok place)
    (hothers : ∀ other ≠ place, t'.get? other = t.get? other) : t'.LeadsTo path id := by
  rw [leadsTo_iff] at h ⊢
  obtain ⟨other, mode, hresolve, hnode⟩ := h
  have hpath := endsInDirectory_of_resolve hresolve hnode nofun
  have hend : other ≠ place := fun heq => hne (heq ▸ hresolve)
  exact ⟨other, mode, resolve_of_directories hpath (directory_of_changed hplace hothers) hresolve,
    (hothers other hend).trans hnode⟩

theorem LeadsTo.of_passed (h : t.LeadsTo path id)
    (hkept : ∀ place ∈ passed [] (Text.Path.components path), t'.get? place = t.get? place) :
    t'.LeadsTo path id := by
  obtain ⟨mode, hlookup⟩ := h
  exact ⟨mode, lookup_of_passed hkept hlookup⟩

theorem HasSocket.of_erase (h : (t.erase place).HasSocket owner) : t.HasSocket owner := by
  obtain ⟨other, mode, hnode⟩ := h
  by_cases hother : other = place
  · rw [hother, get?_erase, if_pos rfl] at hnode
    split at hnode <;> cases hnode
  · rw [get?_erase_of_ne hother] at hnode
    exact ⟨other, mode, hnode⟩

theorem HasSocket.of_set {node : FileNode} (h : (t.set place node).HasSocket owner) :
    (∃ mode, node = .socket owner mode) ∨ t.HasSocket owner := by
  obtain ⟨other, mode, hnode⟩ := h
  by_cases hother : other = place
  · rw [hother, get?_set, if_pos rfl] at hnode
    split at hnode
    · cases hnode
    · exact .inl ⟨mode, Option.some.inj hnode⟩
  · rw [get?_set_of_ne hother] at hnode
    exact .inr ⟨other, mode, hnode⟩

end FileTree

end ModuleProxy
