import Mathlib.Algebra.GroupWithZero.Nat
import ModuleProxy.Proofs.Socket.Uses

namespace ModuleProxy

variable {ω : Type}

namespace SocketChannel

def outboxBytes (c : SocketChannel) : Nat :=
  (c.outbox.map List.length).sum

structure Counted (limits : FrameLimits) (c : SocketChannel) : Prop where
  limits_eq : c.limits = limits
  bytes_eq : c.queuedBytes = c.outboxBytes
  count_le : c.outbox.length ≤ outboxLimit
  bytes_le : c.queuedBytes ≤ limits.maxSize

namespace Counted

variable {limits : FrameLimits} {c : SocketChannel}

theorem reconnect (h : Counted limits c) (connection : Option Connection) :
    Counted limits { c with connection } :=
  ⟨h.limits_eq, h.bytes_eq, h.count_le, h.bytes_le⟩

theorem first_le {frame : Bytes} {rest : List Bytes} (h : Counted limits c)
    (houtbox : c.outbox = frame :: rest) : frame.length ≤ c.queuedBytes := by
  have hbytes := h.bytes_eq
  rw [outboxBytes, houtbox, List.map_cons, List.sum_cons] at hbytes
  omega

theorem take {frame : Bytes} {rest : List Bytes} (h : Counted limits c)
    (houtbox : c.outbox = frame :: rest) :
    Counted limits
      { c with outbox := rest, queuedBytes := c.queuedBytes - frame.length } := by
  have hbytes := h.bytes_eq
  have hcount := h.count_le
  have hmost := h.bytes_le
  rw [outboxBytes, houtbox, List.map_cons, List.sum_cons] at hbytes
  rw [houtbox, List.length_cons] at hcount
  refine ⟨h.limits_eq, ?_, ?_, ?_⟩
  · change c.queuedBytes - frame.length = (rest.map List.length).sum
    omega
  · change rest.length ≤ outboxLimit
    omega
  · change c.queuedBytes - frame.length ≤ limits.maxSize
    omega

theorem put {frame : Bytes} (h : Counted limits c) (hroom : c.outbox.length < outboxLimit)
    (hfits : c.queuedBytes + frame.length ≤ limits.maxSize) :
    Counted limits
      { c with
        outbox := c.outbox ++ [frame]
        queuedBytes := c.queuedBytes + frame.length } := by
  refine ⟨h.limits_eq, ?_, ?_, hfits⟩
  · change c.queuedBytes + frame.length = ((c.outbox ++ [frame]).map List.length).sum
    rw [h.bytes_eq, outboxBytes]
    simp
  · change (c.outbox ++ [frame]).length ≤ outboxLimit
    rw [List.length_append]
    exact hroom

theorem empty (h : Counted limits c) :
    Counted limits { c with outbox := [], queuedBytes := 0 } :=
  ⟨h.limits_eq, rfl, Nat.zero_le _, Nat.zero_le _⟩

end Counted

structure InAccount (limits : FrameLimits) (c : SocketChannel) : Prop
    extends Counted limits c where
  settled : c.Settled

theorem Counted.inAccount_of_free {limits : FrameLimits} {c : SocketChannel}
    (h : Counted limits c) (hfree : c.connection = none) : InAccount limits c :=
  ⟨h, fun hpeer => absurd hfree hpeer⟩

theorem Counted.inAccount_of_empty {limits : FrameLimits} {c : SocketChannel}
    (h : Counted limits c) (hempty : c.outbox = []) : InAccount limits c :=
  ⟨h, fun _ => hempty⟩

variable [Sockets ω] {limits : FrameLimits} {c : SocketChannel}

/-- The flush, for as long as what it takes off the count is there. -/
def flushWithin (frames : List Bytes) (peer : Connection) (c : SocketChannel) (w : ω) :
    Option (Except ProxyError Unit × SocketChannel × ω) :=
  match frames with
  | [] => some (.ok (), c, w)
  | frame :: rest =>
    if c.queuedBytes < frame.length then none
    else
      match { c with
        outbox := rest
        queuedBytes := c.queuedBytes - frame.length }.deliver peer frame w with
      | (.error e, c, w) => some (.error e, c, w)
      | (.ok (), c, w) => flushWithin rest peer c w

theorem Counted.flushWithin_eq {frames : List Bytes} (h : Counted limits c)
    (houtbox : c.outbox = frames) (peer : Connection) (w : ω) :
    flushWithin frames peer c w = some (flush frames peer c w) := by
  induction frames generalizing c w with
  | nil => rfl
  | cons frame rest ih =>
    have hle : ¬c.queuedBytes < frame.length := Nat.not_lt.mpr (h.first_le houtbox)
    rw [flushWithin, flush, if_neg hle]
    obtain ⟨w', hwritten⟩ | ⟨e, w', hfailed⟩ := deliver_cases
      { c with outbox := rest, queuedBytes := c.queuedBytes - frame.length } peer frame w
    · simp only [hwritten]
      exact ih (h.take houtbox) rfl w'
    · simp only [hfailed]

theorem Counted.flush {frames : List Bytes} (h : Counted limits c)
    (houtbox : c.outbox = frames) (peer : Connection) (w : ω) :
    InAccount limits (flush frames peer c w).2.1 := by
  induction frames generalizing c w with
  | nil => exact h.inAccount_of_empty houtbox
  | cons frame rest ih =>
    rw [SocketChannel.flush]
    obtain ⟨w', hwritten⟩ | ⟨e, w', hfailed⟩ := deliver_cases
      { c with outbox := rest, queuedBytes := c.queuedBytes - frame.length } peer frame w
    · simp only [hwritten]
      exact ih (h.take houtbox) rfl w'
    · -- the rest waits for the next peer, and this one is gone
      simp only [hfailed]
      exact ((h.take houtbox).reconnect none).inAccount_of_free rfl

end SocketChannel

end ModuleProxy
