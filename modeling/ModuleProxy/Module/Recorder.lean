import ModuleProxy.Module.Basic
import ModuleProxy.Module.Journal

namespace ModuleProxy

structure RecorderSettings where
  name : String
  echo : Bool := false
  hasStart : Bool := true
  stopOn : Option String := none
  stopAfter : Nat := 1

structure Recorder (β : Type) where
  settings : RecorderSettings
  broker : Option β := none
  brokers : List β := []
  counted : Nat := 0

namespace Recorder

variable {β ω : Type} [Publisher β ω] [Journal ω]

def log (r : Recorder β) (name : String) (detail : EventDetail) (w : ω) : Recorder β × ω :=
  let w := Journal.log { name, subject := r.settings.name, detail } w
  if r.settings.stopOn = some name then
    let r := { r with counted := r.counted + 1 }
    (r, if r.counted ≥ r.settings.stopAfter then Journal.requestStop w else w)
  else (r, w)

def refusal : Bytes := [102, 97, 105, 108]

def create (r : Recorder β) (broker : β) (args : Bytes) (w : ω) :
    Except Cause Unit × Recorder β × ω :=
  let (r, w) := r.log "create" (.bytes args) w
  if refusal.isPrefixOf args then (.error (.text (Text.Utf8.decodeLossy args)), r, w)
  else (.ok (), { r with broker := some broker, brokers := r.brokers ++ [broker] }, w)

def receive (r : Recorder β) (m : Message) (w : ω) : Recorder β × ω :=
  let (r, w) := r.log "receive" (.message m) w
  if r.settings.echo then
    match r.broker with
    | none => (r, w)
    | some broker =>
      match Publisher.publish broker m w with
      | (.ok (), w) => (r, w)
      | (.error e, w) => r.log "publish_error" (.error e) w
  else (r, w)

def destroy (r : Recorder β) (w : ω) : Recorder β × ω :=
  { r with broker := none }.log "destroy" .none w

def start (r : Recorder β) (w : ω) : Recorder β × ω :=
  r.log "start" .none w

end Recorder

end ModuleProxy
