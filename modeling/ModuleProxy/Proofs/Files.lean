import ModuleProxy.Files
import ModuleProxy.Proofs.Lookup
import ModuleProxy.Proofs.Success
import ModuleProxy.Proofs.Text.Path

namespace ModuleProxy

namespace FileTree

variable {t t' : FileTree} {place : List String}

theorem get?_nil (t : FileTree) : t.get? [] = some .directory := rfl

theorem get?_erase (t : FileTree) (place other : List String) :
    (t.erase place).get? other =
      if other = [] then some .directory
      else if other = place then none
      else t.get? other := by
  unfold get?
  split
  · rfl
  · exact lookup_filter_ne t.entries place other

theorem get?_set (t : FileTree) (place other : List String) (node : FileNode) :
    (t.set place node).get? other =
      if other = [] then some .directory
      else if other = place then some node
      else t.get? other := by
  unfold get?
  split
  · rfl
  · rw [set, lookup_cons_eq_ite]
    split
    · rfl
    · rename_i hplace
      exact (lookup_filter_ne t.entries place other).trans (if_neg hplace)

theorem get?_set_of_ne {other : List String} (h : other ≠ place) (node : FileNode) :
    (t.set place node).get? other = t.get? other := by
  rw [get?_set, if_neg h]
  split
  · rename_i hnil
    rw [hnil, get?_nil]
  · rfl

theorem get?_erase_of_ne {other : List String} (h : other ≠ place) :
    (t.erase place).get? other = t.get? other := by
  rw [get?_erase, if_neg h]
  split
  · rename_i hnil
    rw [hnil, get?_nil]
  · rfl

theorem set_erase (t : FileTree) (place : List String) (node : FileNode) :
    (t.erase place).set place node = t.set place node := by
  simp only [set, erase, List.filter_filter, Bool.and_self]

theorem walk_of_directories {here names inner : List String}
    (hdirectories : ∀ place, t.get? place = some .directory → t'.get? place = some .directory)
    (h : t.walk here names = .ok inner) : t'.walk here names = .ok inner := by
  fun_induction walk t here names with
  | case1 => exact h
  | case2 here name names hstay ih =>
    rw [walk, if_pos hstay]
    exact ih h
  | case3 here names hstay ih =>
    rw [walk, if_neg hstay, if_pos rfl]
    exact ih h
  | case4 => cases h
  | case5 here name hstay hup hsize =>
    rw [walk, if_neg hstay, if_neg hup, if_neg hsize, if_pos rfl]
    exact h
  | case6 here name names hstay hup hsize hlast hdirectory ih =>
    rw [walk, if_neg hstay, if_neg hup, if_neg hsize, if_neg hlast, hdirectories _ hdirectory]
    exact ih h
  | case7 => cases h
  | case8 => cases h

theorem directory_of_changed (hplace : t.get? place ≠ some .directory)
    (hothers : ∀ other ≠ place, t'.get? other = t.get? other) (other : List String)
    (h : t.get? other = some .directory) : t'.get? other = some .directory := by
  have hne : other ≠ place := fun heq => hplace (heq ▸ h)
  exact (hothers other hne).trans h

def passed : (here names : List String) → List (List String)
  | _, [] => []
  | here, name :: names =>
    if name = "." || name = "/" then passed here names
    else if name = ".." then passed (here.drop 1) names
    else (name :: here).reverse :: passed (name :: here) names

theorem walk_congr {here names : List String}
    (h : ∀ place ∈ passed here names, t'.get? place = t.get? place) :
    t'.walk here names = t.walk here names := by
  induction names generalizing here with
  | nil => rfl
  | cons name names ih =>
    unfold passed at h
    unfold walk
    split
    · rename_i hstay
      rw [if_pos hstay] at h
      exact ih h
    · rename_i hstay
      rw [if_neg hstay] at h
      split
      · rename_i hup
        rw [if_pos hup] at h
        exact ih h
      · rename_i hup
        rw [if_neg hup, List.forall_mem_cons] at h
        rw [h.1, ih h.2]

theorem passed_of_walk {here names inner : List String} (h : t.walk here names = .ok inner) :
    inner.reverse ∈ passed here names ∨ inner <:+ here := by
  fun_induction walk t here names with
  | case1 here =>
    cases h
    exact .inr List.suffix_rfl
  | case2 here name names hstay ih =>
    rw [passed, if_pos hstay]
    exact ih h
  | case3 here names hstay ih =>
    rw [passed, if_neg hstay, if_pos rfl]
    exact (ih h).imp_right fun hsuffix => hsuffix.trans (List.drop_suffix 1 here)
  | case4 => cases h
  | case5 here name hstay hup hsize =>
    cases h
    rw [passed, if_neg hstay, if_neg hup]
    exact .inl List.mem_cons_self
  | case6 here name names hstay hup hsize hlast hdirectory ih =>
    rw [passed, if_neg hstay, if_neg hup]
    obtain hmem | hsuffix := ih h
    · exact .inl (List.mem_cons_of_mem _ hmem)
    · obtain rfl | hsuffix := List.suffix_cons_iff.mp hsuffix
      · exact .inl List.mem_cons_self
      · exact .inr hsuffix
  | case7 => cases h
  | case8 => cases h

theorem resolve_eq_ok_iff {path : String} :
    t.resolve path = .ok place ↔
      path.isEmpty = false ∧ path.toList.contains '\x00' = false ∧ Text.Utf8.size path < 4096 ∧
        t.walk [] (Text.Path.components path) = .ok place.reverse ∧
        (Text.Path.endsInDirectory path = true →
          t.get? place = some .directory ∨ t.get? place = none) := by
  unfold resolve
  by_cases hempty : path.isEmpty = true
  · rw [if_pos hempty]
    exact iff_of_false nofun fun h => absurd hempty (by simp [h.1])
  by_cases hnul : path.toList.contains '\x00' = true
  · rw [if_neg hempty, if_pos hnul]
    exact iff_of_false nofun fun h => absurd hnul (by simp only [h.2.1, Bool.false_eq_true,
      not_false_iff])
  by_cases hsize : Text.Utf8.size path ≥ 4096
  · rw [if_neg hempty, if_neg hnul, if_pos hsize]
    exact iff_of_false nofun fun h => absurd hsize (Nat.not_le.mpr h.2.2.1)
  rw [if_neg hempty, if_neg hnul, if_neg hsize, bind_eq_ok_iff]
  dsimp only
  constructor
  · rintro ⟨inner, hwalk, hplace⟩
    refine ⟨by simpa using hempty, by simpa only [Bool.not_eq_true] using hnul,
      Nat.lt_of_not_ge hsize, ?_⟩
    split at hplace
    · split at hplace
      · rename_i hdirectory
        cases hplace
        exact ⟨by rwa [List.reverse_reverse], fun _ => .inl hdirectory⟩
      · rename_i hnone
        cases hplace
        exact ⟨by rwa [List.reverse_reverse], fun _ => .inr hnone⟩
      · cases hplace
    · rename_i hpath
      cases hplace
      exact ⟨by rwa [List.reverse_reverse], fun h => absurd h hpath⟩
  · rintro ⟨_, _, _, hwalk, hnode⟩
    refine ⟨place.reverse, hwalk, ?_⟩
    rw [List.reverse_reverse]
    split
    · rename_i hpath
      obtain hdirectory | hnone := hnode hpath
      · rw [hdirectory]
        rfl
      · rw [hnone]
        rfl
    · rfl

theorem endsInDirectory_of_resolve {path : String} (hresolve : t.resolve path = .ok place)
    {node : FileNode} (hnode : t.get? place = some node) (hne : node ≠ .directory) :
    Text.Path.endsInDirectory path = false := by
  rw [← Bool.not_eq_true]
  intro hpath
  obtain ⟨_, _, _, _, hfound⟩ := resolve_eq_ok_iff.mp hresolve
  rw [hnode] at hfound
  obtain hdirectory | hnone := hfound hpath
  · exact hne (Option.some.inj hdirectory)
  · cases hnone

theorem resolve_of_directories {path : String} (hpath : Text.Path.endsInDirectory path = false)
    (hdirectories : ∀ place, t.get? place = some .directory → t'.get? place = some .directory)
    (h : t.resolve path = .ok place) : t'.resolve path = .ok place := by
  rw [resolve_eq_ok_iff] at h ⊢
  obtain ⟨hempty, hnul, hsize, hwalk, _⟩ := h
  exact ⟨hempty, hnul, hsize, walk_of_directories hdirectories hwalk, by simp [hpath]⟩

theorem lookup_eq_ok_iff {path : String} {node : FileNode} :
    t.lookup path = .ok node ↔
      ∃ place, t.resolve path = .ok place ∧ t.get? place = some node := by
  rw [lookup, bind_eq_ok_iff]
  constructor
  · rintro ⟨place, hresolve, hnode⟩
    refine ⟨place, hresolve, ?_⟩
    split at hnode
    · rename_i found hfound
      cases hnode
      exact hfound
    · cases hnode
  · rintro ⟨place, hresolve, hnode⟩
    exact ⟨place, hresolve, by rw [hnode]; rfl⟩

theorem lookup_of_vacant {path : String} (hresolve : t.resolve path = .ok place)
    (hnode : t.get? place = none) : t.lookup path = .error .notFound := by
  rw [lookup, hresolve, ok_bind_eq, hnode]
  rfl

theorem lookup_of_passed {path : String} {node : FileNode}
    (h : ∀ place ∈ passed [] (Text.Path.components path), t'.get? place = t.get? place)
    (hlookup : t.lookup path = .ok node) : t'.lookup path = .ok node := by
  rw [lookup_eq_ok_iff] at hlookup ⊢
  obtain ⟨place, hresolve, hnode⟩ := hlookup
  obtain ⟨hempty, hnul, hsize, hwalk, hdirectory⟩ := resolve_eq_ok_iff.mp hresolve
  have hplace : t'.get? place = t.get? place := by
    obtain hmem | hsuffix := passed_of_walk hwalk
    · rw [List.reverse_reverse] at hmem
      exact h place hmem
    · rw [List.reverse_eq_nil_iff.mp (List.suffix_nil.mp hsuffix)]
      rfl
  refine ⟨place, resolve_eq_ok_iff.mpr ⟨hempty, hnul, hsize, ?_, ?_⟩, hplace.trans hnode⟩
  · rw [walk_congr h]
    exact hwalk
  · rwa [hplace]

theorem remove_of_resolve {path : String} (hresolve : t.resolve path = .ok place)
    {node : FileNode} (hnode : t.get? place = some node) (hne : node ≠ .directory) :
    t.remove path = .ok (t.erase place) := by
  rw [remove, hresolve, ok_bind_eq, hnode]
  cases node with
  | directory => exact absurd rfl hne
  | file content => rfl
  | socket listener mode => rfl

theorem openForWrite_eq_ok {path : String} {old : Bytes}
    (h : t.openForWrite path = .ok (place, old)) :
    t.resolve path = .ok place ∧ t.get? place ≠ some .directory ∧
      Text.Path.endsInDirectory path = false := by
  simp only [openForWrite, bind_eq_ok_iff] at h
  obtain ⟨found, hresolve, hnode⟩ := h
  split at hnode
  · rename_i content hfile
    cases hnode
    exact ⟨hresolve, by simp [hfile], endsInDirectory_of_resolve hresolve hfile (by simp)⟩
  · cases hnode
  · cases hnode
  · rename_i hnone
    split at hnode
    · cases hnode
    · rename_i hpath
      cases hnode
      exact ⟨hresolve, by simp [hnone], by simpa using hpath⟩

theorem write_of_endsInDirectory {path : String} (hpath : Text.Path.endsInDirectory path = true)
    (content : Bytes) (t' : FileTree) : t.write path content ≠ .ok t' := by
  intro h
  simp only [write, bind_eq_ok_iff, Prod.exists] at h
  obtain ⟨place, old, hopen, _⟩ := h
  rw [(openForWrite_eq_ok hopen).2.2] at hpath
  cases hpath

theorem resolve_set_file {path : String} {old : Bytes}
    (hopen : t.openForWrite path = .ok (place, old)) (content : Bytes) :
    (t.set place (.file content)).resolve path = .ok place ∧
      (t.set place (.file content)).get? place = some (.file content) := by
  obtain ⟨hresolve, hfile, hpath⟩ := openForWrite_eq_ok hopen
  have hne : place ≠ [] := by
    rintro rfl
    exact hfile t.get?_nil
  refine ⟨resolve_of_directories hpath (directory_of_changed hfile fun _ hne => get?_set_of_ne hne _)
    hresolve, ?_⟩
  rw [get?_set, if_neg hne, if_pos rfl]

theorem read_set_file {path : String} {old : Bytes}
    (hopen : t.openForWrite path = .ok (place, old)) (content : Bytes) :
    (t.set place (.file content)).read path = .ok content := by
  rw [read, lookup_eq_ok_iff.mpr ⟨place, resolve_set_file hopen content⟩]
  rfl

theorem openForWrite_set_file {path : String} {old : Bytes}
    (hopen : t.openForWrite path = .ok (place, old)) (content : Bytes) :
    (t.set place (.file content)).openForWrite path = .ok (place, content) := by
  obtain ⟨hresolve, hnode⟩ := resolve_set_file hopen content
  rw [openForWrite, hresolve, ok_bind_eq, hnode]
  rfl

theorem read_of_write {path : String} {content : Bytes} (h : t.write path content = .ok t') :
    t'.read path = .ok content := by
  simp only [write, bind_eq_ok_iff, Prod.exists, pure_eq_ok_iff] at h
  obtain ⟨place, old, hopen, rfl⟩ := h
  exact read_set_file hopen content

theorem append_of_openForWrite {path : String} {old : Bytes}
    (hopen : t.openForWrite path = .ok (place, old)) (content : Bytes) :
    t.append path content = .ok (t.set place (.file (old ++ content))) := by
  rw [append, hopen]
  rfl

end FileTree

end ModuleProxy
