import ModuleProxy.Channel.Basic
import ModuleProxy.Module.Journal

namespace ModuleProxy

/-- What the calls on a channel give, in order. Past the script nothing comes and all sends go
well. -/
structure ChannelScript where
  recv : List (Except ProxyError (Option Bytes)) := []
  send : List (Except ProxyError Unit) := []

structure ChannelScripts where
  opens : List (Except ProxyError Unit) := []
  control : List ChannelScript := []
  message : List ChannelScript := []
  live : Array (String × ChannelScript) := #[]

structure ScriptHandle where
  index : Nat
  deriving DecidableEq, Repr

def popOr {α : Type} (default : α) : List α → α × List α
  | [] => (default, [])
  | a :: rest => (a, rest)

namespace ChannelScripts

def next (role : ChannelRole) (s : ChannelScripts) : ChannelScript × ChannelScripts :=
  match role with
  | .control => ((popOr {} s.control).1, { s with control := (popOr {} s.control).2 })
  | .message => ((popOr {} s.message).1, { s with message := (popOr {} s.message).2 })

def openChannel (role : ChannelRole) (name : String) (s : ChannelScripts) :
    Except ProxyError ScriptHandle × ChannelScripts :=
  let (result, opens) := popOr (.ok ()) s.opens
  let s := { s with opens }
  match result with
  | .error e => (.error e, s)
  | .ok () =>
    let (script, s) := s.next role
    (.ok ⟨s.live.size⟩, { s with live := s.live.push (name, script) })

def name (h : ScriptHandle) (s : ChannelScripts) : String :=
  (s.live[h.index]?.map (·.1)).getD ""

def script (h : ScriptHandle) (s : ChannelScripts) : ChannelScript :=
  (s.live[h.index]?.map (·.2)).getD {}

def setScript (h : ScriptHandle) (script : ChannelScript) (s : ChannelScripts) : ChannelScripts :=
  { s with live := s.live.modify h.index fun entry => (entry.1, script) }

def send (h : ScriptHandle) (s : ChannelScripts) : Except ProxyError Unit × ChannelScripts :=
  let script := s.script h
  let (result, rest) := popOr (.ok ()) script.send
  (result, s.setScript h { script with send := rest })

def recv (h : ScriptHandle) (s : ChannelScripts) :
    Except ProxyError (Option Bytes) × ChannelScripts :=
  let script := s.script h
  let (result, rest) := popOr (.ok none) script.recv
  (result, s.setScript h { script with recv := rest })

end ChannelScripts

end ModuleProxy
