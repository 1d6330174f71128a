import Mathlib.Logic.Basic
import ModuleProxy.Proofs.Socket.Binding

/-!
Listeners and the paths that they are bound at, while others change the tree as they like. Those
bound at one path after each other can be dropped in any order, and each that is dropped takes no
more away than its own socket.
-/

namespace ModuleProxy

open FileTree SocketSystem

inductive PathStep where
  | bind (path : String) (mode : Nat)
  | drop (id : ListenerId)
  | remove (place : List String)
  | put (place : List String) (content : Option Bytes)
  | listen (place : List String) (listener : Listener) (mode : Nat)
  | link (place source : List String)

namespace PathStep

def on (s : SocketSystem) : PathStep → SocketSystem
  | bind path mode => (s.bindWithMode path mode).2
  | drop id => s.closeListener id
  | remove place => { s with files := s.files.erase place }
  | put place content => { s with files := s.files.set place (content.elim .directory .file) }
  | listen place listener mode => s.listen place listener mode
  | link place source =>
    match s.files.get? source with
    | none => s
    | some node => { s with files := s.files.set place node }

def runFrom (s : SocketSystem) (steps : List PathStep) : SocketSystem :=
  steps.foldl on s

def run (steps : List PathStep) : SocketSystem :=
  runFrom {} steps

/-- Each step is as `P` has it when its turn comes. -/
def Throughout (P : SocketSystem → PathStep → Prop) : SocketSystem → List PathStep → Prop
  | _, [] => True
  | s, step :: steps => P s step ∧ Throughout P (step.on s) steps

variable {s : SocketSystem} {path : String} {id : ListenerId}

theorem runFrom_induction {P : SocketSystem → PathStep → Prop} {I : SocketSystem → Prop}
    (hstep : ∀ s step, P s step → I s → I (step.on s)) {steps : List PathStep}
    (hsteps : Throughout P s steps) (h : I s) : I (runFrom s steps) := by
  induction steps generalizing s with
  | nil => exact h
  | cons step steps ih => exact ih hsteps.2 (hstep s step hsteps.1 h)

structure AddsNone (s s' : SocketSystem) : Prop where
  size_eq : s'.listeners.size = s.listeners.size
  hasSocket (owner : ListenerId) (h : s'.files.HasSocket owner) : s.files.HasSocket owner
  isOpen (id : ListenerId) (h : s'.IsOpen id) : s.IsOpen id

theorem addsNone_of_set (place : List String) {node : FileNode}
    (h : ∀ owner mode, node = .socket owner mode → s.files.HasSocket owner) :
    AddsNone s { s with files := s.files.set place node } where
  size_eq := rfl
  hasSocket owner howner := by
    obtain ⟨mode, heq⟩ | hold := HasSocket.of_set howner
    · exact h owner mode heq
    · exact hold
  isOpen _ hopen := hopen

theorem on_cases (s : SocketSystem) (step : PathStep) :
    (∃ place listener mode, step.on s = s.listen place listener mode) ∨ AddsNone s (step.on s) := by
  cases step with
  | bind path mode =>
    obtain ⟨e, hbind⟩ | ⟨-, place, -, hbind⟩ := s.bindWithMode_eq path mode
    · rw [on, hbind]
      exact .inr ⟨rfl, fun _ h => h, fun _ h => h⟩
    · rw [on, hbind]
      exact .inl ⟨place, _, mode, rfl⟩
  | drop id =>
    exact .inr ⟨s.size_closeListener id, fun _ => hasSocket_of_closeListener,
      fun _ => IsOpen.of_closeListener⟩
  | remove place => exact .inr ⟨rfl, fun _ => HasSocket.of_erase, fun _ h => h⟩
  | put place content =>
    apply Or.inr
    apply addsNone_of_set
    intro owner mode heq
    cases content <;> cases heq
  | listen place listener mode => exact .inl ⟨place, listener, mode, rfl⟩
  | link place source =>
    apply Or.inr
    rw [on]
    split
    · exact ⟨rfl, fun _ h => h, fun _ h => h⟩
    · rename_i node hsource
      apply addsNone_of_set
      rintro owner mode rfl
      exact ⟨source, mode, hsource⟩

def Numbered (s : SocketSystem) : Prop :=
  ∀ owner, s.files.HasSocket owner → owner < s.listeners.size

theorem numbered_on (h : Numbered s) (step : PathStep) : Numbered (step.on s) := by
  intro owner howner
  obtain ⟨place, listener, mode, hlisten⟩ | hnone := on_cases s step
  · rw [hlisten] at howner ⊢
    rw [SocketSystem.listen, Array.size_push]
    obtain rfl | hold := hasSocket_of_listen howner
    · exact Nat.lt_succ_self _
    · exact Nat.lt_succ_of_lt (h owner hold)
  · rw [hnone.size_eq]
    exact h owner (hnone.hasSocket owner howner)

theorem not_hasSocket_empty (owner : ListenerId) : ¬({} : SocketSystem).files.HasSocket owner := by
  rintro ⟨place, mode, hnode⟩
  rw [FileTree.get?] at hnode
  split at hnode <;> cases hnode

theorem numbered_run (steps : List PathStep) : Numbered (run steps) :=
  List.foldlRecOn steps on (fun owner h => absurd h (not_hasSocket_empty owner))
    fun _ h step _ => numbered_on h step

/-- A listener that a step adds has a socket with an identity of its own, which none has of the
sockets in the tree and of those whose listeners are open. -/
def Identifies (identity : ListenerId → UInt64 × UInt64) (s : SocketSystem) (step : PathStep) :
    Prop :=
  (step.on s).listeners.size ≠ s.listeners.size →
    ∀ owner, s.files.HasSocket owner ∨ s.IsOpen owner → identity owner ≠ identity s.listeners.size

def Identified (identity : ListenerId → UInt64 × UInt64) (s : SocketSystem) : Prop :=
  ∀ id, s.IsOpen id → ∀ owner, s.files.HasSocket owner → identity owner = identity id → owner = id

theorem identified_on {identity : ListenerId → UInt64 × UInt64} {step : PathStep}
    (hstep : Identifies identity s step) (h : Identified identity s) :
    Identified identity (step.on s) := by
  intro id hopen owner howner heq
  obtain ⟨place, listener, mode, hlisten⟩ | hnone := on_cases s step
  -- Either of the two that are compared may be the one that was added.
  · have hnew := hstep (by simp [hlisten, SocketSystem.listen])
    rw [hlisten] at hopen howner
    obtain rfl | hid := eq_or_ne id s.listeners.size
    · obtain rfl | hold := hasSocket_of_listen howner
      · rfl
      · exact absurd heq (hnew owner (.inl hold))
    · have hopen' := (isOpen_listen_of_ne hid place listener mode).mp hopen
      obtain rfl | hold := hasSocket_of_listen howner
      · exact absurd heq.symm (hnew id (.inr hopen'))
      · exact h id hopen' owner hold heq
  · exact h id (hnone.isOpen id hopen) owner (hnone.hasSocket owner howner) heq

theorem identified_run {identity : ListenerId → UInt64 × UInt64} {steps : List PathStep}
    (h : Throughout (Identifies identity) {} steps) : Identified identity (run steps) :=
  runFrom_induction (fun _ _ => identified_on) h fun _ _ owner howner =>
    absurd howner (not_hasSocket_empty owner)

structure KeepsPaths (s : SocketSystem) : Prop where
  refused (path : String) (mode : Nat) (node : FileNode) (h : s.files.lookup path = .ok node)
    (hnode : ∀ owner m, node ≠ .socket owner m) : ∃ e, s.bindWithMode path mode = (.error e, s)
  bound (path : String) (mode : Nat) (id : ListenerId) (s' : SocketSystem)
    (h : s.bindWithMode path mode = (.ok id, s')) :
    ¬s.files.HasSocket id ∧ s'.files.LeadsTo path id ∧
      ∃ place, s.files.resolve path = .ok place ∧
        ∀ other, other ≠ place → s'.files.get? other = s.files.get? other
  removed (id : ListenerId) (l : Listener) (hl : s.listeners[id]? = some l)
    (hopen : l.isOpen = true) (h : s.files.LeadsTo l.path id) :
    (s.closeListener id).files.lookup l.path = .error .notFound ∧
      ∃ place, s.files.resolve l.path = .ok place ∧
        ∀ other, other ≠ place → (s.closeListener id).files.get? other = s.files.get? other
  left (id : ListenerId)
    (h : ∀ l, s.listeners[id]? = some l → l.isOpen = true → ¬s.files.LeadsTo l.path id) :
    (s.closeListener id).files = s.files
  spared (id other : ListenerId) (path : String) (hne : other ≠ id)
    (h : s.files.LeadsTo path other) : (s.closeListener id).files.LeadsTo path other

theorem keepsPaths_of_numbered (h : Numbered s) : KeepsPaths s where
  refused path mode node hlookup hnode := bindWithMode_of_node hlookup hnode mode
  bound path mode id s' hbind := by
    obtain ⟨-, rfl, place, hfree, rfl⟩ := bindWithMode_eq_ok hbind
    have hfresh : ¬s.files.HasSocket s.listeners.size := fun howner =>
      Nat.lt_irrefl _ (h s.listeners.size howner)
    exact ⟨hfresh, leadsTo_listen hfree _ mode, place, hfree.resolve_eq,
      fun other hother => get?_set_of_ne hother _⟩
  removed id l hl hopen howns := by
    obtain ⟨place, mode, hresolve, hnode, hfiles⟩ := closeListener_of_leadsTo hl hopen howns
    have hfree : Free s.files l.path place := free_of_socket hresolve hnode
    rw [hfiles]
    refine ⟨lookup_of_vacant hfree.resolve_erase ?_, place, hresolve,
      fun other hother => get?_erase_of_ne hother⟩
    rw [get?_erase, if_neg hfree.ne_nil, if_pos rfl]
  left id howns := closeListener_of_other howns
  spared id other path hne hleads := leadsTo_closeListener hne hleads

/-- Nothing else is bound in a step where the path leads to, its listener is not dropped, and others
change nothing there or on the way there. -/
def Spares (path : String) (id : ListenerId) (s : SocketSystem) : PathStep → Prop
  | bind other mode =>
    ∀ new, (s.bindWithMode other mode).1 = .ok new → s.files.resolve other ≠ s.files.resolve path
  | drop other => other ≠ id
  | remove place | put place _ | listen place _ _ | link place _ =>
    place ∉ passed [] (Text.Path.components path)

theorem leadsTo_set_of_not_passed (h : s.files.LeadsTo path id) {place : List String}
    (hplace : place ∉ passed [] (Text.Path.components path)) (node : FileNode) :
    (s.files.set place node).LeadsTo path id :=
  h.of_passed fun other hother =>
    get?_set_of_ne (fun heq : other = place => hplace (heq ▸ hother)) node

theorem bound_on {step : PathStep} (hstep : Spares path id s step) (h : Bound s path id) :
    Bound (step.on s) path id := by
  have hlisten : ∀ place listener mode, (s.listen place listener mode).IsOpen id :=
    fun place listener mode =>
      (isOpen_listen_of_ne (Nat.ne_of_lt h.isOpen.lt_size) place listener mode).mpr h.isOpen
  cases step with
  | bind other mode =>
    obtain ⟨e, hbind⟩ | ⟨-, place, hfree, hbind⟩ := s.bindWithMode_eq other mode
    · rwa [on, hbind]
    · have hne := hstep s.listeners.size (by rw [hbind])
      rw [hfree.resolve_eq] at hne
      rw [on, hbind]
      exact ⟨h.leadsTo.changed hfree.not_directory hne.symm fun _ hne => get?_set_of_ne hne _,
        hlisten place _ mode⟩
  | drop other => exact h.closeListener hstep
  | remove place =>
    refine ⟨h.leadsTo.of_passed fun other hother => ?_, h.isOpen⟩
    exact get?_erase_of_ne fun heq => hstep (heq ▸ hother)
  | put place content => exact ⟨leadsTo_set_of_not_passed h.leadsTo hstep _, h.isOpen⟩
  | listen place listener mode =>
    exact ⟨leadsTo_set_of_not_passed h.leadsTo hstep _, hlisten place listener mode⟩
  | link place source =>
    rw [on]
    split
    · exact h
    · exact ⟨leadsTo_set_of_not_passed h.leadsTo hstep _, h.isOpen⟩

/-- Whatever was bound, dropped and changed by others, a listener binds at no path where there is
something else than a socket, and one that is dropped removes what is at its path just if that still
is its own socket, and nothing else. It is told by its device and inode, as long as these do not
come again. Who connects to a path comes to the listener that was bound there last, until that is
dropped or others change the path. -/
theorem paths_kept (steps : List PathStep) :
    KeepsPaths (run steps) ∧
    (∀ identity : ListenerId → UInt64 × UInt64, Throughout (Identifies identity) {} steps →
      ∀ path id, (run steps).IsOpen id →
        ((run steps).files.LeadsTo path id ↔
          (run steps).files.identityAt identity path = some (identity id))) ∧
    ∀ path mode id s', (run steps).bindWithMode path mode = (.ok id, s') →
      ∀ after, Throughout (Spares path id) s' after →
        (runFrom s' after).files.LeadsTo path id ∧
          (runFrom s' after).listenerAt path = .ok id := by
  refine ⟨keepsPaths_of_numbered (numbered_run steps), ?_, ?_⟩
  · intro identity hidentity path id hopen
    exact leadsTo_iff_identityAt (identified_run hidentity id hopen)
  · intro path mode id s' hbind after hafter
    have hbound : Bound (runFrom s' after) path id :=
      runFrom_induction (fun _ _ => bound_on) hafter (bound_of_bind hbind)
    exact ⟨hbound.leadsTo, hbound.listenerAt_eq (bindWithMode_eq_ok hbind).1⟩

example : (run [.bind "a" 0, .bind "a" 0, .drop 0]).listenerAt "a" = .ok 1 := by rfl

end PathStep

end ModuleProxy
