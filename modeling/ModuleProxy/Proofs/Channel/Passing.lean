import ModuleProxy.Module.Basic
import ModuleProxy.Proofs.Channel.Memory

namespace ModuleProxy.MemoryNetwork

theorem send_cases (n : MemoryNetwork) (h : MemoryHandle) (frame : Bytes) :
    (n.isOpen h = true ∧ n.isOpen (peer h) = true ∧ n.send h frame =
        (.ok (), n.modifyEnd (peer h) fun e => { e with inbox := e.inbox.push frame })) ∨
      (¬(n.isOpen h = true ∧ n.isOpen (peer h) = true) ∧
        ∃ reason, n.send h frame = (.error (.disconnected reason), n)) := by
  unfold send
  cases hopen : n.isOpen h with
  | false => exact .inr ⟨by simp, _, rfl⟩
  | true =>
    cases hpeer : n.isOpen (peer h) with
    | false => exact .inr ⟨by simp, _, rfl⟩
    | true => exact .inl ⟨rfl, rfl, rfl⟩

theorem recv_cases (n : MemoryNetwork) (h : MemoryHandle) :
    (∃ e frame inbox, n.ends[h.index]? = some e ∧ e.isOpen = true ∧
        e.inbox.toList = frame :: inbox.toList ∧
        n.recv h = (.ok (some frame), n.modifyEnd h fun e => { e with inbox })) ∨
      ((∀ e, n.ends[h.index]? = some e → e.isOpen = true → e.inbox.toList = []) ∧
        (n.isOpen (peer h) = true ∧ n.recv h = (.ok none, n) ∨
          ∃ reason, n.recv h = (.error (.disconnected reason), n))) := by
  unfold recv
  cases he : n.ends[h.index]? with
  | none => exact .inr ⟨nofun, .inr ⟨_, rfl⟩⟩
  | some e =>
    dsimp only
    cases hopen : e.isOpen with
    | false =>
      refine .inr ⟨?_, .inr ⟨_, rfl⟩⟩
      rintro _ ⟨⟩ hopen'
      rw [hopen] at hopen'
      cases hopen'
    | true =>
      cases hpop : e.inbox.pop? with
      | some taken =>
        obtain ⟨frame, inbox⟩ := taken
        exact .inl ⟨e, frame, inbox, rfl, hopen, Fifo.toList_of_pop? hpop, rfl⟩
      | none =>
        refine .inr ⟨?_, ?_⟩
        · rintro _ ⟨⟩ _
          exact (Fifo.pop?_eq_none_iff e.inbox).mp hpop
        · cases n.isOpen (peer h) with
          | false => exact .inr ⟨_, rfl⟩
          | true => exact .inl ⟨rfl, rfl⟩

variable {n n' : MemoryNetwork} {h : MemoryHandle} {m : Message} {frame : Bytes}

theorem send_of_open (hopen : n.isOpen h = true)
    (hpeer : n.isOpen (peer h) = true) (frame : Bytes) :
    n.send h frame = (.ok (),
      n.modifyEnd (peer h) fun e => { e with inbox := e.inbox.push frame }) := by
  simp [send, hopen, hpeer]

theorem send_ok_iff (n : MemoryNetwork) (h : MemoryHandle) (frame : Bytes) :
    (n.send h frame).1 = .ok () ↔ n.isOpen h = true ∧ n.isOpen (peer h) = true := by
  obtain ⟨hopen, hpeer, hsend⟩ | ⟨hnot, _, hsend⟩ := n.send_cases h frame
  · rw [hsend]
    exact iff_of_true rfl ⟨hopen, hpeer⟩
  · rw [hsend]
    exact iff_of_false nofun hnot

theorem send_of_error {e : ProxyError} (hsend : n.send h frame = (.error e, n')) : n' = n := by
  obtain ⟨_, _, heq⟩ | ⟨_, _, heq⟩ := n.send_cases h frame
  · cases hsend.symm.trans heq
  · cases hsend.symm.trans heq
    rfl

theorem reason_of_send {e : ProxyError} (hsend : n.send h frame = (.error e, n')) :
    ∃ reason, e = .disconnected reason := by
  obtain ⟨_, _, heq⟩ | ⟨_, reason, heq⟩ := n.send_cases h frame
  · cases hsend.symm.trans heq
  · cases hsend.symm.trans heq
    exact ⟨reason, rfl⟩

theorem publish_of_unwritten (n : MemoryNetwork) (h : MemoryHandle) {e : FormatError}
    (hframe : m.encode = .error e) :
    Publisher.publish h m n = (.error (.publishFailure (.format e)), n) := by
  rw [Publisher.publish, hframe]

theorem publish_of_unsent {e : ProxyError} (hframe : m.encode = .ok frame)
    (hsend : n.send h frame = (.error e, n')) :
    Publisher.publish h m n = (.error (.publishFailure (.proxy e)), n') := by
  rw [Publisher.publish, hframe]
  simp only [Publisher.publishFrame, Channels.send, hsend]
  rfl

theorem publish_of_sent (hframe : m.encode = .ok frame)
    (hsend : n.send h frame = (.ok (), n')) : Publisher.publish h m n = (.ok (), n') := by
  rw [Publisher.publish, hframe]
  simp only [Publisher.publishFrame, Channels.send, hsend]
  rfl

theorem publish_ok_iff (n : MemoryNetwork) (h : MemoryHandle) (hframe : m.encode = .ok frame) :
    (Publisher.publish h m n).1 = .ok () ↔ n.isOpen h = true ∧ n.isOpen (peer h) = true := by
  rw [← n.send_ok_iff h frame]
  rcases hsend : n.send h frame with ⟨e | _, n'⟩
  · rw [publish_of_unsent hframe hsend]
    exact iff_of_false nofun nofun
  · rw [publish_of_sent hframe hsend]

theorem publish_of_error (n : MemoryNetwork) (h : MemoryHandle) (m : Message)
    (herror : (Publisher.publish h m n).1 ≠ .ok ()) : (Publisher.publish h m n).2 = n := by
  cases hframe : m.encode with
  | error e => rw [publish_of_unwritten n h hframe]
  | ok frame =>
    rcases hsend : n.send h frame with ⟨e | _, n'⟩
    · rw [publish_of_unsent hframe hsend, send_of_error hsend]
    · rw [publish_of_sent hframe hsend] at herror
      exact absurd rfl herror

theorem publish_cases (n : MemoryNetwork) (h : MemoryHandle) (m : Message) :
    (Publisher.publish h m n).2 = n ∨
      ∃ frame, (Publisher.publish h m n).2 = (n.send h frame).2 := by
  cases hframe : m.encode with
  | error e => exact .inl (by rw [publish_of_unwritten n h hframe])
  | ok frame =>
    refine .inr ⟨frame, ?_⟩
    rcases hsend : n.send h frame with ⟨e | _, n'⟩
    · rw [publish_of_unsent hframe hsend]
    · rw [publish_of_sent hframe hsend]

theorem recv_of_open (hopen : n.isOpen h = true) :
    (n.recv h).1 =
      if n.pending h = [] ∧ n.isOpen (peer h) = false then .error peerGoneError
      else .ok (n.pending h).head? := by
  obtain ⟨e, he, hopen⟩ := isOpen_eq_true_iff.mp hopen
  rw [pending_of_open he hopen, recv, he]
  simp only [hopen, Bool.not_true, Bool.false_eq_true, ↓reduceIte]
  cases hpop : e.inbox.pop? with
  | none =>
    rw [(Fifo.pop?_eq_none_iff e.inbox).mp hpop]
    cases n.isOpen (peer h) <;> rfl
  | some taken =>
    rw [Fifo.toList_of_pop? hpop]
    rfl

theorem recv_of_closed (hclosed : n.isOpen h = false) :
    n.recv h = (.error closedError, n) := by
  unfold recv
  cases he : n.ends[h.index]? with
  | none => rfl
  | some e =>
    have hclosed : e.isOpen = false := by simpa [isOpen, he] using hclosed
    simp [hclosed]

theorem recv_some (hrecv : n.recv h = (.ok (some frame), n')) :
    ∃ inbox, n.isOpen h = true ∧ n.pending h = frame :: inbox.toList ∧
      n' = n.modifyEnd h fun e => { e with inbox } := by
  obtain ⟨e, first, inbox, he, hopen, hlist, heq⟩ | ⟨_, ⟨_, heq⟩ | ⟨_, heq⟩⟩ := n.recv_cases h
  · cases hrecv.symm.trans heq
    exact ⟨inbox, isOpen_eq_true_iff.mpr ⟨e, he, hopen⟩, (pending_of_open he hopen).trans hlist, rfl⟩
  · cases hrecv.symm.trans heq
  · cases hrecv.symm.trans heq

theorem recv_of_no_frame {n n' : MemoryNetwork} {b : MemoryHandle}
    {result : Except ProxyError (Option Bytes)} (hrecv : n.recv b = (result, n'))
    (hnone : ∀ frame, result ≠ .ok (some frame)) : n' = n ∧ n.pending b = [] := by
  obtain ⟨e, first, inbox, _, _, _, heq⟩ | ⟨hempty, heq⟩ := n.recv_cases b
  · cases hrecv.symm.trans heq
    exact absurd rfl (hnone first)
  · have hpending : n.pending b = [] := by
      rw [pending, look]
      cases he : n.ends[b.index]? with
      | none => rfl
      | some e => simpa using hempty e he
    obtain ⟨_, heq⟩ | ⟨_, heq⟩ := heq
    · cases hrecv.symm.trans heq
      exact ⟨rfl, hpending⟩
    · cases hrecv.symm.trans heq
      exact ⟨rfl, hpending⟩

theorem reason_of_recv {n n' : MemoryNetwork} {b : MemoryHandle} {e : ProxyError}
    (hrecv : n.recv b = (.error e, n')) : ∃ reason, e = .disconnected reason := by
  obtain ⟨_, first, inbox, _, _, _, heq⟩ | ⟨_, ⟨_, heq⟩ | ⟨reason, heq⟩⟩ := n.recv_cases b
  · cases hrecv.symm.trans heq
  · cases hrecv.symm.trans heq
  · cases hrecv.symm.trans heq
    exact ⟨reason, rfl⟩

theorem length_pending_lt_supply (n : MemoryNetwork) (b : MemoryHandle) :
    (n.pending b).length < Channels.supply b n := by
  simp only [pending, look, Channels.supply]
  cases n.ends[b.index]? with
  | none => simp
  | some e => cases hopen : e.isOpen <;> simp [hopen]

end ModuleProxy.MemoryNetwork
