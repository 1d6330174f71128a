import ModuleProxy.Proofs.Frame.Reading
import ModuleProxy.Proofs.Frame.Writing
import ModuleProxy.Proofs.Socket.Connections

namespace ModuleProxy

open SocketSystem in
theorem FrameReader.readAt_readFrame (r : FrameReader) (w : OpenStream SocketSystem) :
    (r.readFrame w).2.2.id = w.id ∧ ReadAt w.id w.system (r.readFrame w).2.2.system := by
  have hread : ∀ {w w' : OpenStream SocketSystem} {result : Except IoError Bytes},
      ByteSource.read readSize w = (result, w') →
      w'.id = w.id ∧ ReadAt w.id w.system w'.system := by
    rintro w w' result h
    cases h
    exact ⟨rfl, readAt_read ..⟩
  fun_induction readFrame r w with
  | case1 r w | case2 r w => exact ⟨rfl, .refl _ _⟩
  | case3 r w hs e w' hr hi hlt ih =>
    obtain ⟨hid, hat⟩ := hread hr
    rw [hid] at ih
    exact ⟨ih.1, hat.trans ih.2⟩
  | case4 r w hs e w' hr | case5 r w hs w' hr => exact hread hr
  | case6 r w hs w' b piece hr hlt ih =>
    obtain ⟨hid, hat⟩ := hread hr
    rw [hid] at ih
    exact ⟨ih.1, hat.trans ih.2⟩

namespace SocketSystem

variable {s s' : SocketSystem}

theorem accept_iff {listener : ListenerId} {found : Option StreamId} :
    Sockets.accept listener s = (.ok found, s') ↔ s.accept? listener = (found, s') := by
  simp [Sockets.accept, Prod.ext_iff]

theorem ready_ok_iff {limits : FrameLimits} {id : StreamId} :
    Sockets.ready limits id s = (.ok (), s') ↔ checkTimeouts limits = .ok () ∧ s' = s := by
  simp only [Sockets.ready]
  cases checkTimeouts limits <;> simp [eq_comm]

theorem ready_error_iff {limits : FrameLimits} {id : StreamId} {e : ProxyError} :
    Sockets.ready limits id s = (.error e, s') ↔
      ∃ e', checkTimeouts limits = .error e' ∧ e = .stream (.io e') ∧ s' = s.close id := by
  simp only [Sockets.ready]
  cases checkTimeouts limits <;> simp [eq_comm]

end SocketSystem

namespace SocketChannel

open SocketSystem

variable {c : SocketChannel} {peer : Connection} {frame : Bytes} {s : SocketSystem}

theorem dropConnection_of_some (h : c.connection = some peer) (s : SocketSystem) :
    c.dropConnection s = ({ c with connection := none }, s.hangUp peer.stream) := by
  rw [dropConnection, h]
  rfl

theorem writeAll_of_open (hne : frame ≠ []) (hopen : s.isSevered peer.stream = false) :
    FrameWriter.writeAll frame (OpenStream.mk peer.stream s) =
      (.ok (), ⟨peer.stream, s.arrive frame peer.stream⟩) := by
  obtain ⟨b, rest, rfl⟩ := List.exists_cons_of_ne_nil hne
  have hwrite : ByteSink.write (b :: rest) (OpenStream.mk peer.stream s) =
      (.ok (rest.length + 1), ⟨peer.stream, s.arrive (b :: rest) peer.stream⟩) := by
    simp only [ByteSink.write, Sockets.write, write_of_open hne hopen]
    rfl
  rw [FrameWriter.writeAll_of_piece hwrite, List.drop_length, FrameWriter.writeAll_nil]
  exact FrameWriter.flush_of_ok rfl

theorem writeAll_of_severed (hne : frame ≠ []) (hsevered : s.isSevered peer.stream = true) :
    FrameWriter.writeAll frame (OpenStream.mk peer.stream s) =
      (.error (.io .brokenPipe), ⟨peer.stream, s⟩) := by
  obtain ⟨b, rest, rfl⟩ := List.exists_cons_of_ne_nil hne
  have hwrite : ByteSink.write (b :: rest) (OpenStream.mk peer.stream s) =
      (.error .brokenPipe, ⟨peer.stream, s⟩) := by
    simp only [ByteSink.write, Sockets.write, write_of_severed hne hsevered]
  exact (FrameWriter.writeAll_of_error hwrite).trans (if_neg (by decide))

theorem writeAll_nil (w : OpenStream SocketSystem) : FrameWriter.writeAll [] w = (.ok (), w) :=
  (FrameWriter.writeAll_nil w).trans (FrameWriter.flush_of_ok rfl)

theorem deliver_of_large (h : c.limits.maxSize < frame.length) :
    c.deliver peer frame s =
      (.error (.stream (.format (.frameTooLarge frame.length c.limits.maxSize))),
        c.dropConnection s) := by
  simp [deliver, FrameWriter.writeFrame, checkLimit, h]

theorem deliver_eq (h : frame.length ≤ c.limits.maxSize) :
    c.deliver peer frame s =
      if frame ≠ [] ∧ s.isSevered peer.stream = true then
        (.error (.stream (.io .brokenPipe)), c.dropConnection s)
      else (.ok (), c, s.arrive frame peer.stream) := by
  have hwrite : FrameWriter.writeFrame ⟨c.limits.maxSize⟩ frame (OpenStream.mk peer.stream s) =
      FrameWriter.writeAll frame ⟨peer.stream, s⟩ := by
    simp [FrameWriter.writeFrame, checkLimit, Nat.not_lt.mpr h]
  by_cases hnil : frame = []
  · subst hnil
    simp [deliver, hwrite, writeAll_nil]
  · cases hsevered : s.isSevered peer.stream with
    | true => simp [deliver, hwrite, writeAll_of_severed hnil hsevered, hnil]
    | false => simp [deliver, hwrite, writeAll_of_open hnil hsevered, hnil]

theorem flush_cons (h : frame.length ≤ c.limits.maxSize) (rest : List Bytes) :
    flush (frame :: rest) peer c s =
      if frame ≠ [] ∧ s.isSevered peer.stream = true then
        (.error (.stream (.io .brokenPipe)),
          { c with
            outbox := rest
            queuedBytes := c.queuedBytes - frame.length }.dropConnection s)
      else
        flush rest peer { c with outbox := rest, queuedBytes := c.queuedBytes - frame.length }
          (s.arrive frame peer.stream) := by
  have hdeliver : deliver { c with outbox := rest, queuedBytes := c.queuedBytes - frame.length }
      peer frame s = _ := deliver_eq h
  rw [flush, hdeliver]
  by_cases hlost : frame ≠ [] ∧ s.isSevered peer.stream = true
  · rw [if_pos hlost, if_pos hlost]
  · rw [if_neg hlost, if_neg hlost]

theorem awaitPeer_of_left {listener : ListenerId} {stream : StreamId} {s' : SocketSystem}
    {rest : List Bytes} (hfree : c.connection = none) (hlistener : c.listener = some listener)
    (haccept : s.accept? listener = (some stream, s')) (htimes : checkTimeouts c.limits = .ok ())
    (houtbox : c.outbox = frame :: rest) (hne : frame ≠ [])
    (hfits : frame.length ≤ c.limits.maxSize) (hsevered : s'.isSevered stream = true) :
    c.awaitPeer s = (.error (.stream (.io .brokenPipe)),
      { c with outbox := rest, queuedBytes := c.queuedBytes - frame.length },
      s'.hangUp stream) := by
  rw [awaitPeer_of_peer hfree hlistener (accept_iff.mpr haccept) (ready_ok_iff.mpr ⟨htimes, rfl⟩),
    houtbox, flush_cons (by exact hfits), if_pos ⟨hne, hsevered⟩, dropConnection_of_some rfl]
  simp only [hfree]
  rfl

theorem deliver_error {e : ProxyError} (h : (c.deliver peer frame s).1 = .error e) :
    (∃ e', e = .stream e') ∧ (c.deliver peer frame s).2 = c.dropConnection s ∧
      (c.limits.maxSize < frame.length ∨ s.isSevered peer.stream = true) := by
  obtain hfits | hlarge := Nat.lt_or_ge c.limits.maxSize frame.length |>.symm
  · rw [deliver_eq hfits] at h ⊢
    split at h
    · rename_i hsevered
      cases h
      rw [if_pos hsevered]
      exact ⟨⟨_, rfl⟩, rfl, .inr hsevered.2⟩
    · cases h
  · rw [deliver_of_large hlarge] at h ⊢
    cases h
    exact ⟨⟨_, rfl⟩, rfl, .inl hlarge⟩

theorem awaitPeer_error {e : ProxyError} (h : (c.awaitPeer s).1 = .error e) :
    (∃ e', e = .stream e') ∨ c.listener = none ∧ e = c.closedError := by
  have hawait := c.awaits_awaitPeer s
  generalize c.awaitPeer s = found at h hawait
  cases hawait with
  | connected | nobody => cases h
  | closed _ hclosed =>
    cases h
    exact .inr ⟨hclosed, rfl⟩
  | refused _ _ haccept => cases haccept
  | unready _ _ _ hready =>
    obtain ⟨e', _, rfl, _⟩ := ready_error_iff.mp hready
    cases h
    exact .inl ⟨_, rfl⟩
  | @peer _ _ _ _ _ flushed _ _ _ _ _ hflush =>
    rcases flushed with ⟨e' | _, after⟩ <;> cases h
    exact .inl (flush_error (by rw [hflush]))

theorem recv_of_awaited {c' : SocketChannel} {s' : SocketSystem} {b : Bool}
    (hawait : c.awaitPeer s = (.ok b, c', s')) (hpeer : c'.connection = some peer) :
    let read := peer.reader.readFrame (OpenStream.mk peer.stream s')
    c.recv s =
      { c' with connection := some { peer with reader := read.2.1 } }.heard read.1
        read.2.2.system := by
  simp only [recv, awaitPeerFor, hawait, hpeer]
  rfl

theorem recv_awaited_cases {c' : SocketChannel} {s' : SocketSystem} {b : Bool}
    (hawait : c.awaitPeer s = (.ok b, c', s')) (hpeer : c'.connection = some peer) :
    let read := peer.reader.readFrame (OpenStream.mk peer.stream s')
    let after := { c' with connection := some { peer with reader := read.2.1 } }
    (c.recv s).2 = (after, read.2.2.system) ∨
      (c.recv s).2 = after.dropConnection read.2.2.system := by
  rw [recv_of_awaited hawait hpeer]
  exact heard_cases ..

theorem recv_of_free {c' : SocketChannel} {s' : SocketSystem} {b : Bool}
    (hawait : c.awaitPeer s = (.ok b, c', s')) (hfree : c'.connection = none) :
    c.recv s = (.ok none, c', s') := by
  simp only [recv, awaitPeerFor, hawait, hfree]

theorem recv_of_failed {c' : SocketChannel} {s' : SocketSystem} {e : ProxyError}
    (hawait : c.awaitPeer s = (.error e, c', s')) : c.recv s = (.error e, c', s') := by
  simp only [recv, awaitPeerFor, hawait]

theorem recv_error {e : ProxyError} (h : (c.recv s).1 = .error e) :
    (∃ e', e = .stream e') ∨ c.listener = none ∧ e = c.closedError := by
  rcases hawait : c.awaitPeer s with ⟨e' | _, c', s'⟩
  · rw [recv_of_failed hawait] at h
    cases h
    exact awaitPeer_error (by rw [hawait])
  · cases hpeer : c'.connection with
    | none =>
      rw [recv_of_free hawait hpeer] at h
      cases h
    | some peer =>
      rw [recv_of_awaited hawait hpeer] at h
      exact .inl (heard_error h)

theorem recv_some (h : (c.recv s).1 = .ok (some frame)) :
    ∃ peer, (c.recv s).2.1.connection = some peer := by
  rcases hawait : c.awaitPeer s with ⟨e | _, c', s'⟩
  · rw [recv_of_failed hawait] at h
    cases h
  · cases hpeer : c'.connection with
    | none =>
      rw [recv_of_free hawait hpeer] at h
      cases h
    | some peer =>
      rw [recv_of_awaited hawait hpeer] at h ⊢
      rw [heard_some h]
      exact ⟨_, rfl⟩

theorem send_of_connected {listener : ListenerId} (hlistener : c.listener = some listener)
    (hpeer : c.connection = some peer) (frame : Bytes) (s : SocketSystem) :
    c.send frame s = c.deliver peer frame s := by
  simp [send, hlistener, awaitPeer_of_connected hpeer, hpeer]

theorem recv_of_waiting {listener : ListenerId} {stream : StreamId} {s' : SocketSystem}
    {bytes rest : Bytes} {f : RawFrame} (hfree : c.connection = none)
    (hlistener : c.listener = some listener) (haccept : s.accept? listener = (some stream, s'))
    (htimes : checkTimeouts c.limits = .ok ()) (houtbox : c.outbox = [])
    (hread : (s'.read FrameReader.readSize stream).1 = .ok bytes) (hne : bytes ≠ [])
    (hsplit : splitFrame bytes c.limits.maxSize = .ok (some (f, rest))) :
    c.recv s = (.ok (some f.bytes),
      { c with connection := some ⟨stream, { limit := c.limits.maxSize, buffer := rest }⟩ },
      (s'.read FrameReader.readSize stream).2) := by
  have hbytes : ByteSource.read FrameReader.readSize (OpenStream.mk stream s') =
      (.ok bytes, ⟨stream, (s'.read FrameReader.readSize stream).2⟩) :=
    Prod.ext hread rfl
  have hawait : c.awaitPeer s = (.ok true,
      { c with connection := some ⟨stream, { limit := c.limits.maxSize }⟩ }, s') := by
    rw [awaitPeer_of_peer hfree hlistener (accept_iff.mpr haccept)
      (ready_ok_iff.mpr ⟨htimes, rfl⟩), houtbox]
    rfl
  have hpiece := FrameReader.readFrame_of_piece (r := { limit := c.limits.maxSize }) rfl hne hbytes
  have hframe := hpiece.trans
    (FrameReader.readFrame_of_some (r := { limit := c.limits.maxSize, buffer := bytes }) hsplit _)
  rw [recv_of_awaited hawait rfl]
  simp only [hframe, heard]

theorem of_bind {role : ChannelRole} {address : ChannelAddress} {base : Option String}
    {limits : FrameLimits} {s' : SocketSystem}
    (h : bind role address base limits s = (.ok c, s')) :
    s'.ends = s.ends ∧
      ∃ listener, c = { role, listener := some listener, limits } ∧ s'.waitingAt listener = [] := by
  unfold bind SocketSystem.bindAddress SocketSystem.bind SocketSystem.bindWithMode at h
  dsimp only at h
  split at h <;> cases h
  rename_i listener hlisten
  split at hlisten
  · cases hlisten
  · split at hlisten
    · cases hlisten
    · split at hlisten <;> cases hlisten
      exact ⟨rfl, _, rfl, by simp [waitingAt]⟩

end SocketChannel

end ModuleProxy
