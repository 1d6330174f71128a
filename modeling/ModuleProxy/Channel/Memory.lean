import ModuleProxy.Channel.Basic
import ModuleProxy.Fifo

/-!
Channels within one program. Ends come in pairs with the numbers `2 k` and `2 k + 1`, and each
queues the frames that the other sent. An end is closed when it is disconnected, or with the last
of its holders. Those who open a channel by its address get one end; the other is parked until
somebody takes it.
-/

namespace ModuleProxy

structure MemoryHandle where
  index : Nat
  deriving DecidableEq, Repr

structure MemoryEnd where
  inbox : Fifo Bytes := {}
  isOpen : Bool := true
  holders : Nat := 1

structure MemoryNetwork where
  ends : Array MemoryEnd := #[]
  /-- Far ends that nobody has taken, by role and components of the address. -/
  parked : List ((ChannelRole × List String) × MemoryHandle) := []

namespace MemoryNetwork

def peer (h : MemoryHandle) : MemoryHandle :=
  ⟨if h.index % 2 = 0 then h.index + 1 else h.index - 1⟩

def modifyEnd (n : MemoryNetwork) (h : MemoryHandle) (f : MemoryEnd → MemoryEnd) : MemoryNetwork :=
  { n with ends := n.ends.modify h.index f }

def pair (n : MemoryNetwork) : (MemoryHandle × MemoryHandle) × MemoryNetwork :=
  ((⟨n.ends.size⟩, ⟨n.ends.size + 1⟩), { n with ends := n.ends ++ #[{}, {}] })

def isOpen (n : MemoryNetwork) (h : MemoryHandle) : Bool :=
  (n.ends[h.index]?.map (·.isOpen)).getD false

def closedError : ProxyError := .disconnected "memory channel closed"

def peerGoneError : ProxyError := .disconnected "memory channel peer dropped"

def send (h : MemoryHandle) (frame : Bytes) (n : MemoryNetwork) :
    Except ProxyError Unit × MemoryNetwork :=
  if !n.isOpen h then (.error closedError, n)
  else if !n.isOpen (peer h) then (.error peerGoneError, n)
  else (.ok (), n.modifyEnd (peer h) fun e => { e with inbox := e.inbox.push frame })

def recv (h : MemoryHandle) (n : MemoryNetwork) :
    Except ProxyError (Option Bytes) × MemoryNetwork :=
  match n.ends[h.index]? with
  | none => (.error closedError, n)
  | some e =>
    if !e.isOpen then (.error closedError, n)
    else
      match e.inbox.pop? with
      | some (frame, inbox) => (.ok (some frame), n.modifyEnd h fun e => { e with inbox })
      | none => (if n.isOpen (peer h) then .ok none else .error peerGoneError, n)

def disconnect (h : MemoryHandle) (n : MemoryNetwork) : MemoryNetwork :=
  n.modifyEnd h fun e => { e with isOpen := false, inbox := {} }

def share (h : MemoryHandle) (n : MemoryNetwork) : MemoryNetwork :=
  n.modifyEnd h fun e => { e with holders := e.holders + 1 }

def release (h : MemoryHandle) (n : MemoryNetwork) : MemoryNetwork :=
  let n := n.modifyEnd h fun e => { e with holders := e.holders - 1 }
  if (n.ends[h.index]?.map (·.holders)).getD 0 = 0 then n.disconnect h else n

def key (role : ChannelRole) (address : ChannelAddress) : ChannelRole × List String :=
  (role, Text.Path.components address.path)

def openChannel (role : ChannelRole) (address : ChannelAddress) (n : MemoryNetwork) :
    MemoryHandle × MemoryNetwork :=
  let key := key role address
  let ((near, far), n) := n.pair
  let n := match n.parked.lookup key with
    | none => n
    | some old => n.release old
  (near, { n with parked := (key, far) :: n.parked.filter (·.1 != key) })

def take (role : ChannelRole) (id : String) (n : MemoryNetwork) :
    Option MemoryHandle × MemoryNetwork :=
  match ChannelAddress.parse id with
  | .error _ => (none, n)
  | .ok address =>
    let key := key role address
    match n.parked.lookup key with
    | none => (none, n)
    | some far => (some far, { n with parked := n.parked.filter (·.1 != key) })

instance : Channels MemoryHandle MemoryNetwork where
  openChannel role address n := (n.openChannel role address).map .ok id
  send := send
  recv := recv
  supply h n := ((n.ends[h.index]?.map fun e => e.inbox.size).getD 0) + 1
  disconnect := disconnect

end MemoryNetwork

end ModuleProxy
