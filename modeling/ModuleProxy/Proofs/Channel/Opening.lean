import ModuleProxy.Proofs.Channel.Acts

namespace ModuleProxy

namespace MemoryNetwork

variable {n : MemoryNetwork} {h b : MemoryHandle}

def replaced (n : MemoryNetwork) (key : ChannelRole × List String) : MemoryNetwork :=
  match n.parked.lookup key with
  | none => n.pair.2
  | some old => n.pair.2.release old

theorem parked_replaced (n : MemoryNetwork) (key : ChannelRole × List String) :
    (n.replaced key).parked = n.parked := by
  unfold replaced
  split
  · rfl
  · exact parked_release _ _

theorem openChannel_eq (n : MemoryNetwork) (role : ChannelRole) (address : ChannelAddress) :
    n.openChannel role address = (⟨n.ends.size⟩,
      { n.replaced (key role address) with
        parked := (key role address, ⟨n.ends.size + 1⟩) ::
          n.parked.filter (·.1 != key role address) }) := by
  rw [← n.parked_replaced (key role address)]
  unfold openChannel replaced
  dsimp only
  rfl

theorem touchesOnly_replaced (n : MemoryNetwork) {key : ChannelRole × List String}
    {old : MemoryHandle} (hold : n.parked.lookup key = some old) :
    TouchesOnly old n.pair.2 (n.replaced key) := by
  unfold replaced
  rw [hold]
  exact .release _ old

theorem getElem?_replaced (n : MemoryNetwork) {key : ChannelRole × List String}
    (hb : n.parked.lookup key ≠ some b) :
    (n.replaced key).ends[b.index]? = n.pair.2.ends[b.index]? := by
  cases hold : n.parked.lookup key with
  | none => rw [replaced, hold]
  | some old =>
    have hne : b ≠ old := by
      rintro rfl
      exact hb hold
    exact (n.touchesOnly_replaced hold).getElem?_eq b hne

theorem pending_replaced (n : MemoryNetwork) (key : ChannelRole × List String)
    (hnil : n.pending b = []) : (n.replaced key).pending b = [] := by
  have hpair : n.pair.2.pending b = [] := by
    rw [pending, look_pair]
    exact hnil
  cases hold : n.parked.lookup key with
  | none => rwa [replaced, hold]
  | some old => exact (n.touchesOnly_replaced hold).pending_nil hpair

theorem take_of_error {id : String} {e : EndpointError}
    (hparse : ChannelAddress.parse id = .error e) (role : ChannelRole) (n : MemoryNetwork) :
    n.take role id = (none, n) := by
  rw [take, hparse]

theorem take_of_ok {id : String} {address : ChannelAddress}
    (hparse : ChannelAddress.parse id = .ok address) (role : ChannelRole) (n : MemoryNetwork) :
    n.take role id = (n.parked.lookup (key role address),
      { n with parked := n.parked.filter (·.1 != key role address) }) := by
  rw [take, hparse]
  dsimp only
  split
  · rename_i hnone
    have hall : n.parked.filter (·.1 != key role address) = n.parked := by
      rw [List.filter_eq_self]
      intro entry hentry
      rw [bne_comm]
      exact List.lookup_eq_none_iff.mp hnone entry hentry
    rw [hnone, hall]
  · rename_i far hfar
    rw [hfar]

/-- Frames no longer pass between an end and its peer, and none waits at the end. -/
def Lost (n : MemoryNetwork) (h : MemoryHandle) : Prop :=
  ClosedAt IsClosedEnd n.ends (peer h).index ∧ n.pending h = []

theorem isOpen_of_closedAt (hclosed : ClosedAt IsClosedEnd n.ends h.index) :
    n.isOpen h = false := by
  obtain ⟨e, he, hopen⟩ := hclosed
  rw [isOpen, he]
  exact hopen

def Disconnected (n : MemoryNetwork) (h : MemoryHandle) : Prop :=
  (∀ frame, ∃ reason, n.send h frame = (.error (.disconnected reason), n)) ∧
    ∃ reason, n.recv h = (.error (.disconnected reason), n)

theorem Lost.disconnected (hlost : n.Lost h) : n.Disconnected h := by
  obtain ⟨hclosed, hnil⟩ := hlost
  constructor
  · intro frame
    obtain ⟨_, hpeer, _⟩ | ⟨_, hsend⟩ := n.send_cases h frame
    · rw [isOpen_of_closedAt hclosed] at hpeer
      cases hpeer
    · exact hsend
  · obtain ⟨e, frame, inbox, he, hopen, hlist, _⟩ | ⟨_, ⟨hpeer, _⟩ | hrecv⟩ := n.recv_cases h
    · rw [pending_of_open he hopen, hlist] at hnil
      cases hnil
    · rw [isOpen_of_closedAt hclosed] at hpeer
      cases hpeer
    · exact hrecv

end MemoryNetwork

end ModuleProxy
