import ModuleProxy.Channel.Basic
import ModuleProxy.Socket.System

/-!
A channel that listens at a path for its peer. Frames sent before a peer connects wait in an
outbox and are written to the peer that comes. When the peer goes, the channel waits for another.
-/

namespace ModuleProxy

structure Connection where
  stream : StreamId
  reader : FrameReader

structure SocketChannel where
  role : ChannelRole
  listener : Option ListenerId
  connection : Option Connection := none
  outbox : List Bytes := []
  queuedBytes : Nat := 0
  limits : FrameLimits := {}

namespace SocketChannel

def outboxLimit : Nat := 64

def bind (role : ChannelRole) (address : ChannelAddress) (base : Option String)
    (limits : FrameLimits) (s : SocketSystem) : Except ProxyError SocketChannel × SocketSystem :=
  match s.bindAddress address base with
  | (.error e, s) => (.error (.endpoint e), s)
  | (.ok listener, s) => (.ok { role, listener := some listener, limits }, s)

def isConnected (c : SocketChannel) : Bool :=
  c.connection.isSome

def path? (c : SocketChannel) (s : SocketSystem) : Option String := do
  let l ← s.listeners[← c.listener]?
  return l.path

def closedError (c : SocketChannel) : ProxyError :=
  .disconnected (c.role.name ++ " channel closed")

def enqueue (c : SocketChannel) (frame : Bytes) : Except ProxyError Unit × SocketChannel :=
  if c.outbox.length ≥ outboxLimit || c.queuedBytes + frame.length > c.limits.maxSize then
    (.error (.disconnected (c.role.name ++ " channel has no peer and its send queue is full")), c)
  else
    (.ok (),
      { c with outbox := c.outbox ++ [frame], queuedBytes := c.queuedBytes + frame.length })

def isTimeout (e : IoError) : Bool :=
  e.kind == .wouldBlock || e.kind == .timedOut

section

variable {ω : Type} [Sockets ω]

def dropConnection (c : SocketChannel) (w : ω) : SocketChannel × ω :=
  match c.connection with
  | none => (c, w)
  | some peer => ({ c with connection := none }, Sockets.hangUp peer.stream w)

def deliver (c : SocketChannel) (peer : Connection) (frame : Bytes) (w : ω) :
    Except ProxyError Unit × SocketChannel × ω :=
  match FrameWriter.writeFrame ⟨c.limits.maxSize⟩ frame (OpenStream.mk peer.stream w) with
  | (.ok (), l) => (.ok (), c, l.system)
  | (.error e, l) => (.error (.stream e), c.dropConnection l.system)

/-- Writes the frames of an outbox in order. A frame leaves the outbox before it is written. -/
def flush (frames : List Bytes) (peer : Connection) (c : SocketChannel) (w : ω) :
    Except ProxyError Unit × SocketChannel × ω :=
  match frames with
  | [] => (.ok (), c, w)
  | frame :: rest =>
    let c := { c with outbox := rest, queuedBytes := c.queuedBytes - frame.length }
    match c.deliver peer frame w with
    | (.error e, c, w) => (.error e, c, w)
    | (.ok (), c, w) => flush rest peer c w

def awaitPeer (c : SocketChannel) (w : ω) : Except ProxyError Bool × SocketChannel × ω :=
  if c.isConnected then (.ok true, c, w)
  else
    match c.listener with
    | none => (.error c.closedError, c, w)
    | some listener =>
      match Sockets.accept listener w with
      | (.error e, w) => (.error e, c, w)
      | (.ok none, w) => (.ok false, c, w)
      | (.ok (some stream), w) =>
        match Sockets.ready c.limits stream w with
        | (.error e, w) => (.error e, c, w)
        | (.ok (), w) =>
          let peer : Connection := ⟨stream, { limit := c.limits.maxSize }⟩
          match flush c.outbox peer { c with connection := some peer } w with
          | (.error e, c, w) => (.error e, c, w)
          | (.ok (), c, w) => (.ok true, c, w)

def awaitPeerFor (tries : Nat) (c : SocketChannel) (w : ω) :
    Except ProxyError Bool × SocketChannel × ω :=
  match tries with
  | 0 => c.awaitPeer w
  | tries + 1 =>
    match c.awaitPeer w with
    | (.ok false, c, w) => awaitPeerFor tries c w
    | (result, c, w) => (result, c, w)

def send (c : SocketChannel) (frame : Bytes) (w : ω) :
    Except ProxyError Unit × SocketChannel × ω :=
  match c.listener with
  | none => (.error c.closedError, c, w)
  | some _ =>
    match c.awaitPeer w with
    | (.error e, c, w) => (.error e, c, w)
    | (.ok _, c, w) =>
      match c.connection with
      | some peer => c.deliver peer frame w
      | none => ((c.enqueue frame).1, (c.enqueue frame).2, w)

def heard (c : SocketChannel) (result : Except StreamError RawFrame) (w : ω) :
    Except ProxyError (Option Bytes) × SocketChannel × ω :=
  match result with
  | .ok f => (.ok (some f.bytes), c, w)
  | .error .closed => (.ok none, c.dropConnection w)
  | .error (.io e) =>
    if isTimeout e then (.ok none, c, w) else (.error (.stream (.io e)), c.dropConnection w)
  | .error (.format e) => (.error (.stream (.format e)), c.dropConnection w)

def recv (c : SocketChannel) (w : ω) (tries : Nat := 0) :
    Except ProxyError (Option Bytes) × SocketChannel × ω :=
  match c.awaitPeerFor tries w with
  | (.error e, c, w) => (.error e, c, w)
  | (.ok _, c, w) =>
    match c.connection with
    | none => (.ok none, c, w)
    | some peer =>
      match Sockets.bound peer.stream w with
      | (.error e, w) => (.error e, c, w)
      | (.ok (), w) =>
        let read := peer.reader.readFrame (OpenStream.mk peer.stream w)
        { c with connection := some { peer with reader := read.2.1 } }.heard read.1
          read.2.2.system

def disconnect (c : SocketChannel) (w : ω) : SocketChannel × ω :=
  let dropped := c.dropConnection w
  ({ dropped.1 with listener := none, outbox := [], queuedBytes := 0 },
    match dropped.1.listener with
    | none => dropped.2
    | some listener => Sockets.closeListener listener dropped.2)

end

end SocketChannel

structure SocketHub where
  system : SocketSystem := {}
  channels : Array SocketChannel := #[]
  base : Option String := none
  limits : FrameLimits := {}

structure SocketHandle where
  index : Nat
  deriving DecidableEq, Repr

namespace SocketHub

def onChannel {α : Type} (handle : SocketHandle) (hub : SocketHub)
    (operation :
      SocketChannel → SocketSystem → Except ProxyError α × SocketChannel × SocketSystem) :
    Except ProxyError α × SocketHub :=
  match hub.channels[handle.index]? with
  | none => (.error (.disconnected "no such channel"), hub)
  | some c =>
    match operation c hub.system with
    | (result, c, system) =>
      (result, { hub with system, channels := hub.channels.setIfInBounds handle.index c })

def add (hub : SocketHub) (c : SocketChannel) : SocketHandle × SocketHub :=
  (⟨hub.channels.size⟩, { hub with channels := hub.channels.push c })

def openChannel (role : ChannelRole) (address : ChannelAddress) (hub : SocketHub) :
    Except ProxyError SocketHandle × SocketHub :=
  match SocketChannel.bind role address hub.base hub.limits hub.system with
  | (.error e, system) => (.error e, { hub with system })
  | (.ok c, system) =>
    let (handle, hub) := { hub with system }.add c
    (.ok handle, hub)

def pendingBytes (hub : SocketHub) : Nat :=
  hub.system.ends.foldl (fun n e => n + e.incoming.size) 0 +
    hub.channels.foldl (fun n c =>
      n + (c.connection.map fun peer => peer.reader.buffer.length).getD 0) 0

instance : Channels SocketHandle SocketHub where
  openChannel := openChannel
  send handle frame hub := hub.onChannel handle fun c s => c.send frame s
  recv handle hub := hub.onChannel handle fun c s => c.recv s
  supply _ hub := hub.pendingBytes + 1
  disconnect handle hub := (hub.onChannel (α := Unit) handle fun c s => (.ok (), c.disconnect s)).2

end SocketHub

end ModuleProxy
