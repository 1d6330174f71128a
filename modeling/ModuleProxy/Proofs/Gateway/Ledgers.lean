import ModuleProxy.Proofs.Channel.Ends
import ModuleProxy.Proofs.Gateway.Operations

namespace ModuleProxy

open MemoryNetwork

namespace GatewayCall

def taken? (channel : MemoryHandle) : GatewayCall MemoryHandle → Option Bytes
  | .recv c (.ok (some frame)) => if c = channel then some frame else none
  | _ => none

def sentOn? (channel : MemoryHandle) : GatewayCall MemoryHandle → Option Bytes
  | .send c frame (.ok ()) => if c = channel then some frame else none
  | _ => none

def accepted? : GatewayCall MemoryHandle → Option MemoryHandle
  | .create broker _ (.ok ()) => some broker
  | _ => none

end GatewayCall

def consumed (b : MemoryHandle) (calls : List (GatewayCall MemoryHandle)) : List Bytes :=
  calls.filterMap (GatewayCall.taken? b)

def sentTo (b : MemoryHandle) (calls : List (GatewayCall MemoryHandle)) : List Bytes :=
  calls.filterMap (GatewayCall.sentOn? (peer b))

def sessions (calls : List (GatewayCall MemoryHandle)) : List MemoryHandle :=
  calls.filterMap GatewayCall.accepted?

structure Story where
  current : Option MemoryHandle := none
  received : List (Option MemoryHandle × Message) := []

def Story.tell (s : Story) : GatewayCall MemoryHandle → Story
  | .create broker _ (.ok ()) => { s with current := some broker }
  | .destroy => { s with current := none }
  | .receive m => { s with received := s.received ++ [(s.current, m)] }
  | _ => s

def story (calls : List (GatewayCall MemoryHandle)) : Story :=
  calls.foldl Story.tell {}

def Story.ofSession (s : Story) (b : MemoryHandle) : List Message :=
  s.received.filterMap fun entry => if entry.1 = some b then some entry.2 else none

def message? (frame : Bytes) : Option Message :=
  (Message.decode frame).toOption

section

variable {calls rest : List (GatewayCall MemoryHandle)} {b : MemoryHandle}

theorem consumed_append : consumed b (calls ++ rest) = consumed b calls ++ consumed b rest :=
  List.filterMap_append

theorem sentTo_append : sentTo b (calls ++ rest) = sentTo b calls ++ sentTo b rest :=
  List.filterMap_append

theorem sessions_append : sessions (calls ++ rest) = sessions calls ++ sessions rest :=
  List.filterMap_append

theorem story_append : story (calls ++ rest) = rest.foldl Story.tell (story calls) :=
  List.foldl_append

end

structure Unseen (calls : List (GatewayCall MemoryHandle)) : Prop where
  consumed_eq : ∀ b, consumed b calls = []
  sessions_eq : sessions calls = []
  story_eq : ∀ s, calls.foldl Story.tell s = s

structure Quiet (calls : List (GatewayCall MemoryHandle)) : Prop extends Unseen calls where
  sentTo_eq : ∀ b, IsNear b → sentTo b calls = []

theorem quiet_openChannel (role : ChannelRole) (address : ChannelAddress)
    (result : Except ProxyError MemoryHandle) : Quiet [.openChannel role address result] :=
  ⟨⟨fun _ => rfl, rfl, fun _ => rfl⟩, fun _ _ => rfl⟩

theorem quiet_recv (c : MemoryHandle) {result : Except ProxyError (Option Bytes)}
    (hnone : ∀ frame, result ≠ .ok (some frame)) : Quiet [.recv c result] := by
  refine ⟨⟨fun b => ?_, rfl, fun _ => rfl⟩, fun _ _ => rfl⟩
  match result with
  | .error _ | .ok none => rfl
  | .ok (some frame) => exact absurd rfl (hnone frame)

theorem quiet_send {c : MemoryHandle} (hnear : IsNear c) (frame : Bytes)
    (result : Except ProxyError Unit) : Quiet [.send c frame result] := by
  refine ⟨⟨fun _ => rfl, rfl, fun _ => rfl⟩, fun b hb => ?_⟩
  have hne : c ≠ peer b := by
    rintro rfl
    exact not_isNear_peer hb hnear
  cases result with
  | error _ => rfl
  | ok _ => simp [sentTo, GatewayCall.sentOn?, hne]

/-- What waits at each near end is what was sent there and was not taken. -/
structure Ledger (start : Nat) (calls : List (GatewayCall MemoryHandle)) (n : MemoryNetwork) :
    Prop where
  paired : n.Paired
  grown : start ≤ n.ends.size
  taken : ∀ b, IsNear b → start ≤ b.index → consumed b calls <+: sentTo b calls
  pending : ∀ b, IsNear b → start ≤ b.index → (n.look b).2 = true →
    sentTo b calls = consumed b calls ++ n.pending b
  fresh : ∀ b, IsNear b → n.ends.size ≤ b.index → sentTo b calls = [] ∧ consumed b calls = []

namespace Ledger

variable {start : Nat} {calls rest : List (GatewayCall MemoryHandle)} {n n' : MemoryNetwork}
  {b : MemoryHandle} {frame : Bytes} {waiting : List Bytes}

theorem initial (hn : n.Paired) : Ledger n.ends.size [] n where
  paired := hn
  grown := Nat.le_refl _
  taken _ _ _ := List.nil_prefix
  pending := by
    intro b _ hge _
    simp [consumed, sentTo, MemoryNetwork.pending, look, Array.getElem?_eq_none hge]
  fresh _ _ _ := ⟨rfl, rfl⟩

theorem keep (h : Ledger start calls n) (hkeeps : n.Keeps n') : Ledger start calls n' where
  paired := hkeeps.paired
  grown := Nat.le_trans h.grown hkeeps.size_le
  taken := h.taken
  pending := by
    intro b hnear hstart hopen
    rw [hkeeps.look_eq b hnear] at hopen
    rw [MemoryNetwork.pending, hkeeps.look_eq b hnear]
    exact h.pending b hnear hstart hopen
  fresh b hnear hge := h.fresh b hnear (Nat.le_trans hkeeps.size_le hge)

theorem same (h : Ledger start calls n) (htaken : ∀ b, consumed b rest = [])
    (hnone : ∀ b, IsNear b → sentTo b rest = []) : Ledger start (calls ++ rest) n := by
  have hconsumed : ∀ b, consumed b (calls ++ rest) = consumed b calls := by
    intro b
    rw [consumed_append, htaken, List.append_nil]
  have hsent : ∀ b, IsNear b → sentTo b (calls ++ rest) = sentTo b calls := by
    intro b hnear
    rw [sentTo_append, hnone b hnear, List.append_nil]
  refine ⟨h.paired, h.grown, ?_, ?_, ?_⟩
  · intro b hnear hstart
    rw [hconsumed, hsent b hnear]
    exact h.taken b hnear hstart
  · intro b hnear hstart
    rw [hconsumed, hsent b hnear]
    exact h.pending b hnear hstart
  · intro b hnear hge
    rw [hconsumed, hsent b hnear]
    exact h.fresh b hnear hge

theorem turn (h : Ledger start calls n) {now : List Bytes × Bool} (hturns : Turns n n' b now)
    (hlt : b.index < n.ends.size)
    (hother : ∀ b', IsNear b' → b' ≠ b → consumed b' rest = [] ∧ sentTo b' rest = [])
    (hself : start ≤ b.index → consumed b (calls ++ rest) <+: sentTo b (calls ++ rest) ∧
      (now.2 = true → sentTo b (calls ++ rest) = consumed b (calls ++ rest) ++ now.1)) :
    Ledger start (calls ++ rest) n' := by
  have hsame : ∀ b', IsNear b' → b' ≠ b →
      consumed b' (calls ++ rest) = consumed b' calls ∧
        sentTo b' (calls ++ rest) = sentTo b' calls := by
    intro b' hnear hne
    obtain ⟨hconsumed, hsent⟩ := hother b' hnear hne
    rw [consumed_append, sentTo_append, hconsumed, hsent, List.append_nil, List.append_nil]
    exact ⟨rfl, rfl⟩
  refine ⟨hturns.paired h.paired, Nat.le_trans h.grown hturns.size_le, ?_, ?_, ?_⟩
  · intro b' hnear hstart
    by_cases heq : b' = b
    · rw [heq] at hstart ⊢
      exact (hself hstart).1
    · rw [(hsame b' hnear heq).1, (hsame b' hnear heq).2]
      exact h.taken b' hnear hstart
  · intro b' hnear hstart hopen
    by_cases heq : b' = b
    · rw [heq] at hstart hopen ⊢
      rw [hturns.look_self] at hopen
      rw [MemoryNetwork.pending, hturns.look_self]
      exact (hself hstart).2 hopen
    · rw [hturns.look_eq b' hnear heq] at hopen
      rw [(hsame b' hnear heq).1, (hsame b' hnear heq).2, MemoryNetwork.pending,
        hturns.look_eq b' hnear heq]
      exact h.pending b' hnear hstart hopen
  · intro b' hnear hge
    have hsize := hturns.size_le
    have hne : b' ≠ b := by
      rintro rfl
      omega
    rw [(hsame b' hnear hne).1, (hsame b' hnear hne).2]
    exact h.fresh b' hnear (by omega)

theorem take (h : Ledger start calls n) (hnear : IsNear b) (hlt : b.index < n.ends.size)
    (hlook : n.look b = (frame :: waiting, true)) (hturns : Turns n n' b (waiting, true))
    (htaken : consumed b rest = [frame]) (hother : ∀ b', b' ≠ b → consumed b' rest = [])
    (hsent : ∀ b', sentTo b' rest = []) : Ledger start (calls ++ rest) n' := by
  apply h.turn hturns hlt (fun b' _ hne => ⟨hother b' hne, hsent b'⟩)
  intro hstart
  have hpending := h.pending b hnear hstart (by rw [hlook])
  rw [MemoryNetwork.pending, hlook] at hpending
  have hnow : sentTo b (calls ++ rest) = consumed b (calls ++ rest) ++ waiting := by
    rw [consumed_append, sentTo_append, htaken, hsent, hpending, List.append_nil,
      List.append_assoc]
    rfl
  exact ⟨⟨waiting, hnow.symm⟩, fun _ => hnow⟩

theorem arrive (h : Ledger start calls n) (hnear : IsNear b) (hlt : b.index < n.ends.size)
    (hopen : (n.look b).2 = true) (hturns : Turns n n' b (n.pending b ++ [frame], true)) :
    Ledger start (calls ++ [.send (peer b) frame (.ok ())]) n' := by
  have hsent : sentTo b [.send (peer b) frame (.ok ())] = [frame] := by
    simp [sentTo, GatewayCall.sentOn?]
  apply h.turn hturns hlt
  · intro b' hnear' hne
    have hpeer : peer b ≠ peer b' := by
      rw [peer_of_near hnear, peer_of_near hnear']
      intro heq
      apply hne
      cases b
      cases b'
      simpa using heq.symm
    simp [consumed, sentTo, GatewayCall.taken?, GatewayCall.sentOn?, hpeer]
  · intro hstart
    have hpending := h.pending b hnear hstart hopen
    have hnow : sentTo b (calls ++ [.send (peer b) frame (.ok ())]) =
        consumed b (calls ++ [.send (peer b) frame (.ok ())]) ++ (n.pending b ++ [frame]) := by
      rw [sentTo_append, hsent, hpending, consumed_append, List.append_assoc]
      simp [consumed, GatewayCall.taken?]
    exact ⟨⟨_, hnow.symm⟩, fun _ => hnow⟩

theorem close (h : Ledger start calls n) (hnear : IsNear b) (hlt : b.index < n.ends.size) :
    Ledger start (calls ++ [.disconnect b]) (n.disconnect b) := by
  apply h.turn (turns_disconnect hlt) hlt fun _ _ _ => ⟨rfl, rfl⟩
  intro hstart
  refine ⟨?_, by simp⟩
  have hconsumed : consumed b (calls ++ [.disconnect b]) = consumed b calls :=
    consumed_append.trans (List.append_nil _)
  have hsent : sentTo b (calls ++ [.disconnect b]) = sentTo b calls :=
    sentTo_append.trans (List.append_nil _)
  rw [hconsumed, hsent]
  exact h.taken b hnear hstart

end Ledger

end ModuleProxy
