import ModuleProxy.Address
import ModuleProxy.Fifo
import ModuleProxy.Files
import ModuleProxy.Socket.Basic

/-!
Local stream sockets, as the operating system keeps them for one program. A connection is two
queues of bytes, one to each end; ends come in pairs with the numbers `2 k` and `2 k + 1`. An end
closes with the last of its holders. A listener owns a path in the tree of files and a queue of
ends that wait to be accepted.
-/

namespace ModuleProxy

structure StreamEnd where
  incoming : Fifo UInt8 := {}
  holders : Nat := 1
  isShut : Bool := false

structure Listener where
  path : String
  waiting : List StreamId := []
  isOpen : Bool := true

structure SocketSystem where
  files : FileTree := {}
  ends : Array StreamEnd := #[]
  listeners : Array Listener := #[]

namespace SocketSystem

def peer (id : StreamId) : StreamId :=
  if id % 2 = 0 then id + 1 else id - 1

def modifyEnd (s : SocketSystem) (id : StreamId) (f : StreamEnd → StreamEnd) : SocketSystem :=
  { s with ends := s.ends.modify id f }

def modifyListener (s : SocketSystem) (id : ListenerId) (f : Listener → Listener) :
    SocketSystem :=
  { s with listeners := s.listeners.modify id f }

def pair (s : SocketSystem) : (StreamId × StreamId) × SocketSystem :=
  ((s.ends.size, s.ends.size + 1), { s with ends := s.ends ++ #[{}, {}] })

def holders (s : SocketSystem) (id : StreamId) : Nat :=
  (s.ends[id]?.map (·.holders)).getD 0

def isShut (s : SocketSystem) (id : StreamId) : Bool :=
  (s.ends[id]?.map (·.isShut)).getD true

def isSevered (s : SocketSystem) (id : StreamId) : Bool :=
  s.holders (peer id) == 0 || s.isShut id || s.isShut (peer id)

def read (n : Nat) (s : SocketSystem) (id : StreamId) : Except IoError Bytes × SocketSystem :=
  match s.ends[id]? with
  | none => (.error .notFound, s)
  | some e =>
    if e.incoming.isEmpty then
      (if s.isSevered id then .ok [] else .error .wouldBlock, s)
    else
      let (bytes, incoming) := e.incoming.splitAt n
      (.ok bytes, s.modifyEnd id fun e => { e with incoming })

def write (bytes : Bytes) (s : SocketSystem) (id : StreamId) : Except IoError Nat × SocketSystem :=
  if bytes = [] then (.ok 0, s)
  else if s.isSevered id then (.error .brokenPipe, s)
  else
    (.ok bytes.length,
      s.modifyEnd (peer id) fun e => { e with incoming := e.incoming.append bytes })

def duplicate (s : SocketSystem) (id : StreamId) : SocketSystem :=
  s.modifyEnd id fun e => { e with holders := e.holders + 1 }

def close (s : SocketSystem) (id : StreamId) : SocketSystem :=
  s.modifyEnd id fun e => { e with holders := e.holders - 1 }

def shutdown (s : SocketSystem) (id : StreamId) : SocketSystem :=
  s.modifyEnd id fun e => { e with isShut := true }

def hangUp (s : SocketSystem) (id : StreamId) : SocketSystem :=
  (s.shutdown id).close id

def checkTimeout : Option Nat → Except IoError Unit
  | some 0 => .error .zeroTimeout
  | _ => .ok ()

def checkTimeouts (limits : FrameLimits) : Except IoError Unit := do
  checkTimeout limits.readTimeout
  checkTimeout limits.writeTimeout

def pathLimit : Nat := 108

def defaultMode : Nat := 0o600

def clearPath (files : FileTree) (path : String) : Except IoError FileTree :=
  match files.lookup path with
  | .ok (.socket ..) => files.remove path
  | .ok _ => .error ⟨.alreadyExists, "existing path is not a unix socket"⟩
  | .error e => if e.kind = .notFound then .ok files else .error e

def placeFor (files : FileTree) (path : String) : Except IoError (List String) :=
  if Text.Path.endsInDirectory path then .error .notFound else files.resolve path

def bindWithMode (path : String) (mode : Nat) (s : SocketSystem) :
    Except EndpointError ListenerId × SocketSystem :=
  let size := Text.Utf8.size path
  if size ≥ pathLimit then (.error (.pathTooLong path size pathLimit), s)
  else match clearPath s.files path with
    | .error e => (.error (.bind path e), s)
    | .ok files =>
      match placeFor files path with
      | .error e => (.error (.bind path e), { s with files })
      | .ok place =>
        let id := s.listeners.size
        (.ok id,
          { s with
            files := files.set place (.socket id mode)
            listeners := s.listeners.push { path } })

def bind (path : String) (s : SocketSystem) : Except EndpointError ListenerId × SocketSystem :=
  s.bindWithMode path defaultMode

def bindAddress (address : ChannelAddress) (base : Option String) (s : SocketSystem) :
    Except EndpointError ListenerId × SocketSystem :=
  s.bind (address.socketPath base)

def accept? (id : ListenerId) (s : SocketSystem) : Option StreamId × SocketSystem :=
  match s.listeners[id]? with
  | none => (none, s)
  | some l =>
    match l.waiting with
    | [] => (none, s)
    | first :: waiting => (some first, s.modifyListener id fun l => { l with waiting })

def ownsPath (s : SocketSystem) (id : ListenerId) (l : Listener) : Bool :=
  match s.files.lookup l.path with
  | .ok (.socket owner _) => owner == id
  | _ => false

def closeListener (s : SocketSystem) (id : ListenerId) : SocketSystem :=
  match s.listeners[id]? with
  | none => s
  | some l =>
    if !l.isOpen then s
    else
      let files :=
        if s.ownsPath id l then (s.files.remove l.path).toOption.getD s.files else s.files
      let s := l.waiting.foldl close { s with files }
      s.modifyListener id fun l => { l with waiting := [], isOpen := false }

def listenerAt (s : SocketSystem) (path : String) : Except IoError ListenerId :=
  if path.toList.contains '\x00' then
    .error ⟨.invalidInput, "paths must not contain interior null bytes"⟩
  else if Text.Utf8.size path ≥ pathLimit then
    .error ⟨.invalidInput, "path must be shorter than SUN_LEN"⟩
  else if path.isEmpty then .error .invalidArgument
  else
    match s.files.lookup path with
    | .error e => .error e
    | .ok (.socket id _) =>
      if (s.listeners[id]?.map (·.isOpen)).getD false then .ok id else .error .connectionRefused
    | .ok _ => .error .connectionRefused

def connect (path : String) (s : SocketSystem) : Except EndpointError StreamId × SocketSystem :=
  match s.listenerAt path with
  | .error e => (.error (.connect path e), s)
  | .ok listener =>
    let ((near, far), s) := s.pair
    (.ok near, s.modifyListener listener fun l => { l with waiting := l.waiting ++ [far] })

theorem kind_ne_interrupted_of_read {n : Nat} {s : SocketSystem} {id : StreamId} {e : IoError}
    (h : (s.read n id).1 = .error e) : e.kind ≠ .interrupted := by
  unfold read at h
  split at h
  · cases h
    decide
  · split at h
    · dsimp only at h
      split at h
      · cases h
      · cases h
        decide
    · cases h

theorem isTransient_of_write {bytes : Bytes} {s : SocketSystem} {id : StreamId} {e : IoError}
    (h : (s.write bytes id).1 = .error e) : e.isTransient = false := by
  unfold write at h
  split at h
  · cases h
  · split at h <;> cases h
    decide

instance : Sockets SocketSystem where
  accept listener s := (.ok (s.accept? listener).1, (s.accept? listener).2)
  ready limits id s :=
    match checkTimeouts limits with
    | .error e => (.error (.stream (.io e)), s.close id)
    | .ok () => (.ok (), s)
  bound _ s := (.ok (), s)
  read id n s := s.read n id
  write id bytes s := s.write bytes id
  flush _ s := (.ok (), s)
  hangUp id s := s.hangUp id
  closeListener listener s := s.closeListener listener
  patience _ _ := 0
  read_patience_lt h hi := absurd hi (kind_ne_interrupted_of_read h)
  write_patience_lt h ht := by simp [isTransient_of_write h] at ht
  flush_patience_lt h := by cases h

end SocketSystem

end ModuleProxy
