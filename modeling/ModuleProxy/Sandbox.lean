import ModuleProxy.Channel.Memory
import ModuleProxy.Channel.Script
import ModuleProxy.Host.Basic
import ModuleProxy.Socket.Channel

namespace ModuleProxy

structure Sandbox where
  hub : SocketHub := {}
  memory : MemoryNetwork := {}
  scripts : ChannelScripts := {}
  events : Array Event := #[]
  stopRequested : Bool := false
  rejecting : Bool := false
  time : Nat := 0

namespace Sandbox

instance : Journal Sandbox where
  log event w := { w with events := w.events.push event }
  requestStop w := { w with stopRequested := true }

instance : FileWorld Sandbox where
  files w := w.hub.system.files
  setFiles files w := { w with hub.system.files := files }
  now := time

def onMemory {α : Type} (operation : MemoryNetwork → α × MemoryNetwork) (w : Sandbox) :
    α × Sandbox :=
  ((operation w.memory).1, { w with memory := (operation w.memory).2 })

def onHub {α : Type} (operation : SocketHub → α × SocketHub) (w : Sandbox) : α × Sandbox :=
  ((operation w.hub).1, { w with hub := (operation w.hub).2 })

def onScripts {α : Type} (operation : ChannelScripts → α × ChannelScripts) (w : Sandbox) :
    α × Sandbox :=
  ((operation w.scripts).1, { w with scripts := (operation w.scripts).2 })

instance : Channels MemoryHandle Sandbox where
  openChannel role address := onMemory (Channels.openChannel role address)
  send channel frame := onMemory (Channels.send channel frame)
  recv channel := onMemory (Channels.recv channel)
  supply channel w := Channels.supply channel w.memory
  disconnect channel w := { w with memory := Channels.disconnect channel w.memory }

instance : Channels SocketHandle Sandbox where
  openChannel role address := onHub (Channels.openChannel role address)
  send channel frame := onHub (Channels.send channel frame)
  recv channel := onHub (Channels.recv channel)
  supply channel w := Channels.supply channel w.hub
  disconnect channel w := { w with hub := Channels.disconnect channel w.hub }

instance : Channels ScriptHandle Sandbox where
  openChannel role address w :=
    let name := role.name ++ ":" ++ address.uri
    onScripts (ChannelScripts.openChannel role name) (Journal.log ⟨"open", name, .none⟩ w)
  send channel frame w :=
    onScripts (ChannelScripts.send channel)
      (Journal.log ⟨"send", w.scripts.name channel, .bytes frame⟩ w)
  recv channel := onScripts (ChannelScripts.recv channel)
  supply channel w := (w.scripts.script channel).recv.length + 1
  disconnect channel w := Journal.log ⟨"disconnect", w.scripts.name channel, .none⟩ w

instance : NativeBroker Sandbox where
  publish broker source frame w :=
    if w.rejecting then (.error (.text "broker is gone"), w)
    else
      let subject := toString broker.toNat ++ "/" ++ Registry.idText source
      (.ok (), Journal.log ⟨"publish", subject, .bytes frame⟩ w)

end Sandbox

end ModuleProxy
