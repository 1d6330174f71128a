import ModuleProxy.Proofs.Frame.Reading
import ModuleProxy.Proofs.Frame.Writing
import ModuleProxy.Proofs.Socket.Channel

/-!
Two worlds of sockets of which one shows what happens in the other. A channel does in both the same.
-/

namespace ModuleProxy

variable {ω σ α : Type} [Sockets ω] [Sockets σ]

/-- Every call of the system comes to the same in the world that is shown. -/
structure Shows (φ : ω → σ) : Prop where
  accept : ∀ listener w, Sockets.accept listener (φ w) = (Sockets.accept listener w).map id φ
  ready : ∀ limits stream w,
    Sockets.ready limits stream (φ w) = (Sockets.ready limits stream w).map id φ
  bound : ∀ stream w, Sockets.bound stream (φ w) = (Sockets.bound stream w).map id φ
  read : ∀ stream n w, Sockets.read stream n (φ w) = (Sockets.read stream n w).map id φ
  write : ∀ stream bytes w,
    Sockets.write stream bytes (φ w) = (Sockets.write stream bytes w).map id φ
  flush : ∀ stream w, Sockets.flush stream (φ w) = (Sockets.flush stream w).map id φ
  hangUp : ∀ stream w, Sockets.hangUp stream (φ w) = φ (Sockets.hangUp stream w)
  closeListener : ∀ listener w,
    Sockets.closeListener listener (φ w) = φ (Sockets.closeListener listener w)

def OpenStream.map (φ : ω → σ) (l : OpenStream ω) : OpenStream σ :=
  ⟨l.id, φ l.system⟩

namespace SocketChannel

def shown (φ : ω → σ) (r : α × SocketChannel × ω) : α × SocketChannel × σ :=
  (r.1, r.2.1, φ r.2.2)

section

variable {φ : ω → σ} (hφ : Shows φ)
include hφ

theorem dropConnection_shown (c : SocketChannel) (w : ω) :
    c.dropConnection (φ w) = (c.dropConnection w).map id φ := by
  unfold dropConnection
  cases c.connection with
  | none => rfl
  | some peer => exact Prod.ext rfl (hφ.hangUp peer.stream w)

theorem readFrame_shown (r : FrameReader) (stream : StreamId) (w : ω) :
    r.readFrame (OpenStream.mk stream (φ w)) =
      (r.readFrame (OpenStream.mk stream w)).map id (Prod.map id (OpenStream.map φ)) := by
  refine FrameReader.readFrame_map (φ := OpenStream.map φ) (fun n l => ?_) r ⟨stream, w⟩
  simp only [ByteSource.read, OpenStream.map, hφ.read]
  rfl

theorem writeFrame_shown (writer : FrameWriter) (frame : Bytes) (stream : StreamId) (w : ω) :
    writer.writeFrame frame (OpenStream.mk stream (φ w)) =
      (writer.writeFrame frame (OpenStream.mk stream w)).map id (OpenStream.map φ) := by
  refine FrameWriter.writeFrame_map (φ := OpenStream.map φ) (fun l => ?_) (fun bytes l => ?_) writer
    frame ⟨stream, w⟩
  · simp only [ByteSink.flush, OpenStream.map, hφ.flush]
    rfl
  · simp only [ByteSink.write, OpenStream.map, hφ.write]
    rfl

theorem deliver_shown (c : SocketChannel) (peer : Connection) (frame : Bytes) (w : ω) :
    c.deliver peer frame (φ w) = shown φ (c.deliver peer frame w) := by
  rw [deliver, deliver, writeFrame_shown hφ]
  rcases FrameWriter.writeFrame _ frame (OpenStream.mk peer.stream w) with ⟨e | _, l⟩
  · exact congrArg (Prod.mk _) (dropConnection_shown hφ c l.system)
  · rfl

theorem flush_shown (frames : List Bytes) (peer : Connection) (c : SocketChannel) (w : ω) :
    flush frames peer c (φ w) = shown φ (flush frames peer c w) := by
  induction frames generalizing c w with
  | nil => rfl
  | cons frame rest ih =>
    rw [flush, flush, deliver_shown hφ]
    rcases deliver _ peer frame w with ⟨e | _, c, w⟩
    · rfl
    · exact ih c w

theorem awaitPeer_shown (c : SocketChannel) (w : ω) :
    c.awaitPeer (φ w) = shown φ (c.awaitPeer w) := by
  unfold awaitPeer
  split
  · rfl
  · cases c.listener with
    | none => rfl
    | some listener =>
      simp only [hφ.accept]
      rcases Sockets.accept listener w with ⟨e | _ | stream, w⟩
      · rfl
      · rfl
      · simp only [Prod.map, id, hφ.ready]
        rcases Sockets.ready c.limits stream w with ⟨e | _, w⟩
        · rfl
        · simp only [flush_shown hφ]
          rcases flush c.outbox _ _ w with ⟨e | _, c, w⟩ <;> rfl

theorem awaitPeerFor_shown (tries : Nat) (c : SocketChannel) (w : ω) :
    awaitPeerFor tries c (φ w) = shown φ (awaitPeerFor tries c w) := by
  induction tries generalizing c w with
  | zero => exact awaitPeer_shown hφ c w
  | succ tries ih =>
    rw [awaitPeerFor, awaitPeerFor, awaitPeer_shown hφ]
    rcases c.awaitPeer w with ⟨e | _ | _, c, w⟩
    · rfl
    · exact ih c w
    · rfl

theorem send_shown (c : SocketChannel) (frame : Bytes) (w : ω) :
    c.send frame (φ w) = shown φ (c.send frame w) := by
  unfold send
  cases c.listener with
  | none => rfl
  | some listener =>
    dsimp only
    rw [awaitPeer_shown hφ]
    rcases c.awaitPeer w with ⟨e | _, c, w⟩
    · rfl
    · simp only [shown]
      cases c.connection with
      | none => rfl
      | some peer => exact deliver_shown hφ c peer frame w

theorem heard_shown (c : SocketChannel) (result : Except StreamError RawFrame) (w : ω) :
    c.heard result (φ w) = shown φ (c.heard result w) := by
  unfold heard
  rw [dropConnection_shown hφ]
  rcases result with (e | _ | e) | f
  · dsimp only
    split <;> rfl
  · rfl
  · rfl
  · rfl

theorem recv_shown (tries : Nat) (c : SocketChannel) (w : ω) :
    c.recv (φ w) tries = shown φ (c.recv w tries) := by
  unfold recv
  rw [awaitPeerFor_shown hφ]
  rcases awaitPeerFor tries c w with ⟨e | _, c, w⟩
  · rfl
  · simp only [shown]
    cases c.connection with
    | none => rfl
    | some peer =>
      simp only [hφ.bound]
      rcases Sockets.bound peer.stream w with ⟨e | _, w⟩
      · rfl
      · simp only [Prod.map, id, readFrame_shown hφ]
        exact heard_shown hφ _ _ _

theorem disconnect_shown (c : SocketChannel) (w : ω) :
    c.disconnect (φ w) = (c.disconnect w).map id φ := by
  unfold disconnect
  rw [dropConnection_shown hφ]
  dsimp only [Prod.map, id]
  cases (c.dropConnection w).1.listener with
  | none => rfl
  | some listener => exact congrArg (Prod.mk _) (hφ.closeListener listener _)

end

end SocketChannel

end ModuleProxy
