import ModuleProxy.Proofs.Socket.Places

namespace ModuleProxy

open FileTree

namespace SocketSystem

variable {s : SocketSystem} {path : String} {id : ListenerId} {l : Listener}

def listen (s : SocketSystem) (place : List String) (listener : Listener) (mode : Nat) :
    SocketSystem :=
  { s with
    files := s.files.set place (.socket s.listeners.size mode)
    listeners := s.listeners.push listener }

structure Free (files : FileTree) (path : String) (place : List String) : Prop where
  resolve_eq : files.resolve path = .ok place
  path_eq : Text.Path.endsInDirectory path = false
  isSocket (node : FileNode) (h : files.get? place = some node) :
    ∃ owner mode, node = .socket owner mode

theorem Free.not_directory {files : FileTree} {place : List String} (h : Free files path place) :
    files.get? place ≠ some .directory := by
  intro hdirectory
  obtain ⟨owner, mode, hnode⟩ := h.isSocket .directory hdirectory
  cases hnode

theorem Free.ne_nil {files : FileTree} {place : List String} (h : Free files path place) :
    place ≠ [] := by
  rintro rfl
  exact h.not_directory files.get?_nil

theorem Free.resolve_erase {files : FileTree} {place : List String} (h : Free files path place) :
    (files.erase place).resolve path = .ok place :=
  resolve_of_directories h.path_eq (directory_of_changed h.not_directory fun _ => get?_erase_of_ne)
    h.resolve_eq

theorem free_of_socket {files : FileTree} {place : List String} {owner mode : Nat}
    (hresolve : files.resolve path = .ok place)
    (hnode : files.get? place = some (.socket owner mode)) : Free files path place where
  resolve_eq := hresolve
  path_eq := endsInDirectory_of_resolve hresolve hnode nofun
  isSocket other hother := by
    rw [hnode] at hother
    exact ⟨owner, mode, (Option.some.inj hother).symm⟩

theorem clearPath_eq_ok {files cleared : FileTree} (h : clearPath files path = .ok cleared) :
    (∃ place, Free files path place ∧ cleared = files.erase place) ∨
      (∀ node, files.lookup path ≠ .ok node) ∧ cleared = files := by
  cases hlookup : files.lookup path with
  | error e =>
    simp only [clearPath, hlookup] at h
    split at h
    · cases h
      exact .inr ⟨nofun, rfl⟩
    · cases h
  | ok node =>
    obtain ⟨place, hresolve, hnode⟩ := lookup_eq_ok_iff.mp hlookup
    cases node with
    | socket owner mode =>
      simp only [clearPath, hlookup, remove_of_resolve hresolve hnode nofun] at h
      cases h
      exact .inl ⟨place, free_of_socket hresolve hnode, rfl⟩
    | directory => simp only [clearPath, hlookup, reduceCtorEq] at h
    | file content => simp only [clearPath, hlookup, reduceCtorEq] at h

theorem placeFor_of_clearPath {files cleared : FileTree} (h : clearPath files path = .ok cleared) :
    (∃ e, placeFor cleared path = .error e ∧ cleared = files) ∨
      ∃ place, placeFor cleared path = .ok place ∧ Free files path place ∧
        ∀ node, cleared.set place node = files.set place node := by
  obtain ⟨place, hfree, rfl⟩ | ⟨hnone, rfl⟩ := clearPath_eq_ok h
  · refine .inr ⟨place, ?_, hfree, files.set_erase place⟩
    rw [placeFor, if_neg (by simp [hfree.path_eq])]
    exact hfree.resolve_erase
  -- Where nothing was removed, the path need not lead anywhere.
  · unfold placeFor
    split
    · exact .inl ⟨_, rfl, rfl⟩
    · rename_i hpath
      cases hresolve : cleared.resolve path with
      | error e => exact .inl ⟨e, rfl, rfl⟩
      | ok place =>
        refine .inr ⟨place, rfl, ⟨hresolve, by simpa using hpath, ?_⟩, fun _ => rfl⟩
        intro node hnode
        exact absurd (lookup_eq_ok_iff.mpr ⟨place, hresolve, hnode⟩) (hnone node)

theorem bindWithMode_eq (s : SocketSystem) (path : String) (mode : Nat) :
    (∃ e, s.bindWithMode path mode = (.error e, s)) ∨
      Text.Utf8.size path < pathLimit ∧ ∃ place, Free s.files path place ∧
        s.bindWithMode path mode = (.ok s.listeners.size, s.listen place { path } mode) := by
  unfold bindWithMode
  dsimp only
  split
  · exact .inl ⟨_, rfl⟩
  · rename_i hsize
    cases hclear : clearPath s.files path with
    | error e => exact .inl ⟨_, rfl⟩
    | ok cleared =>
      obtain ⟨e, hplace, rfl⟩ | ⟨place, hplace, hfree, hset⟩ := placeFor_of_clearPath hclear
      · simp only [hplace]
        exact .inl ⟨_, rfl⟩
      · simp only [hplace, hset]
        exact .inr ⟨Nat.lt_of_not_ge hsize, place, hfree, rfl⟩

theorem bindWithMode_eq_ok {mode : Nat} {s' : SocketSystem}
    (h : s.bindWithMode path mode = (.ok id, s')) :
    Text.Utf8.size path < pathLimit ∧ id = s.listeners.size ∧
      ∃ place, Free s.files path place ∧ s' = s.listen place { path } mode := by
  obtain ⟨e, hfail⟩ | ⟨hsize, place, hfree, hbind⟩ := s.bindWithMode_eq path mode
  · rw [hfail] at h
    cases h
  · rw [hbind] at h
    cases h
    exact ⟨hsize, rfl, place, hfree, rfl⟩

theorem bindWithMode_of_node {node : FileNode} (h : s.files.lookup path = .ok node)
    (hnode : ∀ owner mode, node ≠ .socket owner mode) (mode : Nat) :
    ∃ e, s.bindWithMode path mode = (.error e, s) := by
  obtain hfail | ⟨-, place, hfree, -⟩ := s.bindWithMode_eq path mode
  · exact hfail
  · obtain ⟨place', hresolve, hget⟩ := lookup_eq_ok_iff.mp h
    rw [hfree.resolve_eq] at hresolve
    cases hresolve
    obtain ⟨owner, old, heq⟩ := hfree.isSocket node hget
    exact absurd heq (hnode owner old)

theorem leadsTo_listen {place : List String} (h : Free s.files path place) (listener : Listener)
    (mode : Nat) : (s.listen place listener mode).files.LeadsTo path s.listeners.size := by
  refine leadsTo_iff.mpr ⟨place, mode, ?_, ?_⟩
  · exact resolve_of_directories h.path_eq (directory_of_changed h.not_directory
      fun _ hne => get?_set_of_ne hne _) h.resolve_eq
  · rw [listen, get?_set, if_neg h.ne_nil, if_pos rfl]

theorem foldl_close_files (ids : List StreamId) (s : SocketSystem) :
    (ids.foldl close s).files = s.files ∧ (ids.foldl close s).listeners = s.listeners := by
  induction ids generalizing s with
  | nil => exact ⟨rfl, rfl⟩
  | cons first ids ih => exact ih (s.close first)

theorem ownsPath_iff : s.ownsPath id l = true ↔ s.files.LeadsTo l.path id := by
  unfold ownsPath
  constructor
  · intro howns
    split at howns
    · rename_i owner mode hlookup
      rw [beq_iff_eq] at howns
      exact ⟨mode, howns ▸ hlookup⟩
    · cases howns
  · rintro ⟨mode, hlookup⟩
    rw [hlookup]
    exact beq_self_eq_true id

theorem closeListener_of_closed (h : ∀ l, s.listeners[id]? = some l → l.isOpen = false) :
    s.closeListener id = s := by
  unfold closeListener
  split
  · rfl
  · rename_i l hl
    rw [h l hl]
    rfl

theorem closeListener_files (hl : s.listeners[id]? = some l) (hopen : l.isOpen = true) :
    (s.closeListener id).files =
      if s.ownsPath id l then (s.files.remove l.path).toOption.getD s.files else s.files := by
  simp only [closeListener, hl, hopen, modifyListener, foldl_close_files]
  rfl

theorem closeListener_of_leadsTo (hl : s.listeners[id]? = some l) (hopen : l.isOpen = true)
    (h : s.files.LeadsTo l.path id) :
    ∃ place mode, s.files.resolve l.path = .ok place ∧
      s.files.get? place = some (.socket id mode) ∧
      (s.closeListener id).files = s.files.erase place := by
  obtain ⟨place, mode, hresolve, hnode⟩ := leadsTo_iff.mp h
  refine ⟨place, mode, hresolve, hnode, ?_⟩
  rw [closeListener_files hl hopen, if_pos (ownsPath_iff.mpr h),
    remove_of_resolve hresolve hnode nofun]
  rfl

theorem closeListener_of_other
    (h : ∀ l, s.listeners[id]? = some l → l.isOpen = true → ¬s.files.LeadsTo l.path id) :
    (s.closeListener id).files = s.files := by
  by_cases hclosed : ∀ l, s.listeners[id]? = some l → l.isOpen = false
  · rw [closeListener_of_closed hclosed]
  · simp only [Classical.not_forall, Bool.not_eq_false] at hclosed
    obtain ⟨l, hl, hopen⟩ := hclosed
    rw [closeListener_files hl hopen, if_neg fun howns => h l hl hopen (ownsPath_iff.mp howns)]

theorem closeListener_tree (s : SocketSystem) (id : ListenerId) :
    (s.closeListener id).files = s.files ∨ ∃ place mode,
      s.files.get? place = some (.socket id mode) ∧
        (s.closeListener id).files = s.files.erase place := by
  by_cases hother : ∀ l, s.listeners[id]? = some l → l.isOpen = true → ¬s.files.LeadsTo l.path id
  · exact .inl (closeListener_of_other hother)
  · simp only [Classical.not_forall, Classical.not_not] at hother
    obtain ⟨l, hl, hopen, howns⟩ := hother
    obtain ⟨place, mode, -, hnode, hfiles⟩ := closeListener_of_leadsTo hl hopen howns
    exact .inr ⟨place, mode, hnode, hfiles⟩

theorem listeners_closeListener (s : SocketSystem) (id : ListenerId) :
    s.closeListener id = s ∨
      (s.closeListener id).listeners =
        s.listeners.modify id fun l => { l with waiting := [], isOpen := false } := by
  unfold closeListener
  split
  · exact .inl rfl
  · split
    · exact .inl rfl
    · right
      simp only [modifyListener, foldl_close_files]

theorem size_closeListener (s : SocketSystem) (id : ListenerId) :
    (s.closeListener id).listeners.size = s.listeners.size := by
  obtain hsame | hlisteners := s.listeners_closeListener id
  · rw [hsame]
  · rw [hlisteners, Array.size_modify]

theorem leadsTo_closeListener {other : ListenerId} (hne : other ≠ id)
    (h : s.files.LeadsTo path other) : (s.closeListener id).files.LeadsTo path other := by
  obtain hsame | ⟨place, mode, hnode, hfiles⟩ := s.closeListener_tree id
  · rwa [hsame]
  · rw [hfiles]
    refine h.changed (by simp [hnode]) (fun hresolve => ?_) fun _ => get?_erase_of_ne
    obtain ⟨place', mode', hresolve', hnode'⟩ := leadsTo_iff.mp h
    rw [hresolve] at hresolve'
    cases hresolve'
    rw [hnode] at hnode'
    cases hnode'
    exact hne rfl

def IsOpen (s : SocketSystem) (id : ListenerId) : Prop :=
  ∃ l, s.listeners[id]? = some l ∧ l.isOpen = true

theorem IsOpen.lt_size (h : s.IsOpen id) : id < s.listeners.size := by
  obtain ⟨l, hl, -⟩ := h
  exact (Array.getElem?_eq_some_iff.mp hl).1

theorem isOpen_listen_of_ne (hne : id ≠ s.listeners.size) (place : List String)
    (listener : Listener) (mode : Nat) : (s.listen place listener mode).IsOpen id ↔ s.IsOpen id := by
  rw [IsOpen, IsOpen, listen, Array.getElem?_push, if_neg hne]

theorem isOpen_closeListener_of_ne {other : ListenerId} (hne : other ≠ id) :
    (s.closeListener other).IsOpen id ↔ s.IsOpen id := by
  obtain hsame | hlisteners := s.listeners_closeListener other
  · rw [hsame]
  · rw [IsOpen, IsOpen, hlisteners, Array.getElem?_modify, if_neg hne]

theorem IsOpen.of_closeListener {other : ListenerId} (h : (s.closeListener other).IsOpen id) :
    s.IsOpen id := by
  by_cases hne : other = id
  · obtain hsame | hlisteners := s.listeners_closeListener other
    · rwa [hsame] at h
    · obtain ⟨l, hl, hopen⟩ := h
      rw [hlisteners, Array.getElem?_modify, if_pos hne] at hl
      obtain ⟨old, -, rfl⟩ := Option.map_eq_some_iff.mp hl
      cases hopen
  · exact (isOpen_closeListener_of_ne hne).mp h

theorem hasSocket_of_closeListener {owner other : ListenerId}
    (h : (s.closeListener other).files.HasSocket owner) : s.files.HasSocket owner := by
  obtain hsame | ⟨place, mode, -, hfiles⟩ := s.closeListener_tree other
  · rwa [hsame] at h
  · rw [hfiles] at h
    exact h.of_erase

theorem hasSocket_of_listen {owner : ListenerId} {place : List String} {listener : Listener}
    {mode : Nat} (h : (s.listen place listener mode).files.HasSocket owner) :
    owner = s.listeners.size ∨ s.files.HasSocket owner := by
  obtain ⟨mode, heq⟩ | hold := HasSocket.of_set h
  · cases heq
    exact .inl rfl
  · exact .inr hold

structure Bound (s : SocketSystem) (path : String) (id : ListenerId) : Prop where
  leadsTo : s.files.LeadsTo path id
  isOpen : s.IsOpen id

theorem bound_of_bind {mode : Nat} {s' : SocketSystem}
    (h : s.bindWithMode path mode = (.ok id, s')) : Bound s' path id := by
  obtain ⟨-, rfl, place, hfree, rfl⟩ := bindWithMode_eq_ok h
  exact ⟨leadsTo_listen hfree _ mode, { path }, Array.getElem?_push_size, rfl⟩

theorem Bound.listenerAt_eq (h : Bound s path id) (hsize : Text.Utf8.size path < pathLimit) :
    s.listenerAt path = .ok id := by
  obtain ⟨⟨mode, hlookup⟩, l, hl, hopen⟩ := h
  obtain ⟨place, hresolve, -⟩ := lookup_eq_ok_iff.mp hlookup
  obtain ⟨hempty, hnul, -⟩ := resolve_eq_ok_iff.mp hresolve
  rw [listenerAt, if_neg (by simp only [hnul, Bool.false_eq_true, not_false_iff]),
    if_neg (Nat.not_le.mpr hsize), if_neg (by simp [hempty]), hlookup]
  simp [hl, hopen]

theorem Bound.closeListener (h : Bound s path id) {other : ListenerId} (hne : other ≠ id) :
    Bound (s.closeListener other) path id :=
  ⟨leadsTo_closeListener hne.symm h.leadsTo, (isOpen_closeListener_of_ne hne).mpr h.isOpen⟩

end SocketSystem

end ModuleProxy
