import ModuleProxy.Config
import ModuleProxy.Control.Message
import ModuleProxy.Module.Basic

/-!
A gateway drives one module from a control channel. A create request names the message channel that
the module talks on. Each round of the loop takes at most one control frame and then hands waiting
messages to the module.
-/

namespace ModuleProxy

inductive GatewayState where
  | detached
  | attached
  | created
  deriving DecidableEq, Repr

def GatewayState.name : GatewayState → String
  | .detached => "detached"
  | .attached => "attached"
  | .created => "created"

structure PollStats where
  controlFrames : Nat := 0
  messages : Nat := 0
  discarded : Nat := 0
  deriving DecidableEq, Repr

structure Gateway (μ γ : Type) where
  guest : μ
  config : ProxyConfig := {}
  state : GatewayState := .detached
  control : Option γ := none
  messages : Option γ := none

namespace Gateway

variable {μ γ ω : Type} [Channels γ ω] [ProxiedModule μ γ ω]

def isAttached (g : Gateway μ γ) : Bool :=
  g.control.isSome

def openAt (role : ChannelRole) (id : String) (w : ω) : Except ProxyError γ × ω :=
  match ChannelAddress.parse id with
  | .error e => (.error (.endpoint e), w)
  | .ok address => Channels.openChannel role address w

def attach (g : Gateway μ γ) (id : String) (w : ω) : Except ProxyError Unit × Gateway μ γ × ω :=
  match g.control with
  | some _ => (.error .alreadyAttached, g, w)
  | none =>
    match openAt .control id w with
    | (.error e, w) => (.error e, g, w)
    | (.ok control, w) => (.ok (), { g with control := some control, state := .attached }, w)

def reply (g : Gateway μ γ) (succeeded : Bool) (w : ω) : Except ProxyError Unit × ω :=
  match g.control with
  | none => (.error .notAttached, w)
  | some control => Channels.send control (createReply succeeded) w

def disconnectMessages (g : Gateway μ γ) (w : ω) : Gateway μ γ × ω :=
  match g.messages with
  | none => (g, w)
  | some messages => ({ g with messages := none }, Channels.disconnect messages w)

def destroy (g : Gateway μ γ) (w : ω) : Gateway μ γ × ω :=
  if g.state = .created then
    let (guest, w) := ProxiedModule.destroy g.guest w
    let (g, w) := { g with guest }.disconnectMessages w
    ({ g with state := .attached }, w)
  else (g, w)

def start (g : Gateway μ γ) (w : ω) : Gateway μ γ × ω :=
  if g.state = .created ∧ ProxiedModule.hasStart ω g.guest then
    let (guest, w) := ProxiedModule.start g.guest w
    ({ g with guest }, w)
  else (g, w)

def createGuest (g : Gateway μ γ) (request : Create) (w : ω) : Bool × Gateway μ γ × ω :=
  match openAt .message request.uri.text w with
  | (.error _, w) => (false, g, w)
  | (.ok messages, w) =>
    match ProxiedModule.create g.guest messages request.args w with
    | (.ok (), guest, w) =>
      (true, { g with guest, messages := some messages, state := .created }, w)
    | (.error _, guest, w) => (false, { g with guest }, Channels.disconnect messages w)

def readRequest? (frame : Bytes) : Option Create :=
  match CreateFrame.decode frame with
  | .error _ => none
  | .ok request =>
    if request.body.messageVersion > messageVersion then none else some request.body

def create (g : Gateway μ γ) (frame : Bytes) (w : ω) :
    Except ProxyError Unit × Gateway μ γ × ω :=
  match readRequest? frame with
  | none =>
    let (result, w) := g.reply false w
    (result, g, w)
  | some request =>
    let (g, w) := g.destroy w
    let (succeeded, g, w) := g.createGuest request w
    let (result, w) := g.reply succeeded w
    (result, g, w)

def handle (g : Gateway μ γ) (frame : Bytes) (w : ω) :
    Except ProxyError Unit × Gateway μ γ × ω :=
  match g.control with
  | none => (.error .notAttached, g, w)
  | some _ =>
    match ControlHeader.decode frame with
    | .error e => (.error (.format e), g, w)
    | .ok header =>
      match header.kind with
      | .ok .create => g.create frame w
      | .ok .start => (.ok (), g.start w)
      | .ok .destroy => (.ok (), g.destroy w)
      | .ok .reply | .ok .error | .error _ => (.ok (), g, w)

def messagesPerPoll : Nat := 256

/-- Hands waiting messages to the module, up to `room` of them. A frame that is no message is
counted and does not use up room; `supply` bounds how many of those can come in a row. -/
def deliver (room supply : Nat) (g : Gateway μ γ) (messages : γ) (stats : PollStats) (w : ω) :
    Except ProxyError PollStats × Gateway μ γ × ω :=
  match room, supply with
  | 0, _ | _ + 1, 0 => (.ok stats, g, w)
  | room + 1, supply + 1 =>
    match Channels.recv messages w with
    | (.ok none, w) | (.error (.disconnected _), w) => (.ok stats, g, w)
    | (.error (.stream _), w) => (.ok { stats with discarded := stats.discarded + 1 }, g, w)
    | (.error e, w) => (.error e, g, w)
    | (.ok (some frame), w) =>
      match Message.decode frame with
      | .error _ =>
        deliver (room + 1) supply g messages { stats with discarded := stats.discarded + 1 } w
      | .ok m =>
        let (guest, w) := ProxiedModule.receive g.guest m w
        deliver room (Channels.supply messages w) { g with guest } messages
          { stats with messages := stats.messages + 1 } w
termination_by (room, supply)

def drain (g : Gateway μ γ) (stats : PollStats) (w : ω) :
    Except ProxyError PollStats × Gateway μ γ × ω :=
  match g.messages with
  | none => (.ok stats, g, w)
  | some messages =>
    g.deliver messagesPerPoll (Channels.supply messages w) messages stats w

def pollControl (g : Gateway μ γ) (frame : Bytes) (w : ω) :
    Except ProxyError PollStats × Gateway μ γ × ω :=
  match g.handle frame w with
  | (.ok (), g, w) => (.ok { controlFrames := 1 }, g, w)
  | (.error (.format _), g, w) => (.ok { controlFrames := 1, discarded := 1 }, g, w)
  | (.error e, g, w) => (.error e, g, w)

def poll (g : Gateway μ γ) (w : ω) : Except ProxyError PollStats × Gateway μ γ × ω :=
  match g.control with
  | none => (.error .notAttached, g, w)
  | some control =>
    match Channels.recv control w with
    | (.error (.stream _), w) => g.drain { discarded := 1 } w
    | (.error e, w) => (.error e, g, w)
    | (.ok none, w) => g.drain {} w
    | (.ok (some frame), w) =>
      match g.pollControl frame w with
      | (.error e, g, w) => (.error e, g, w)
      | (.ok stats, g, w) => g.drain stats w

def rounds (stopped : ω → Bool) (n : Nat) (g : Gateway μ γ) (w : ω) :
    Except ProxyError Bool × Gateway μ γ × ω :=
  if stopped w then (.ok true, g, w)
  else
    match n with
    | 0 => (.ok false, g, w)
    | n + 1 =>
      match g.poll w with
      | (.error e, g, w) => (.error e, g, w)
      | (.ok _, g, w) => rounds stopped n g w

def run (stopped : ω → Bool) (n : Nat) (g : Gateway μ γ) (w : ω) :
    Except ProxyError Bool × Gateway μ γ × ω :=
  match g.control with
  | none => (.error .notAttached, g, w)
  | some _ => g.rounds stopped n w

def detach (g : Gateway μ γ) (w : ω) : Except ProxyError Unit × Gateway μ γ × ω :=
  match g.control with
  | none => (.error .notAttached, g, w)
  | some control =>
    let (guest, w) :=
      if g.state = .created then ProxiedModule.destroy g.guest w else (g.guest, w)
    let (g, w) := { g with guest, control := none }.disconnectMessages w
    let (sent, w) := Channels.send control (replyFrame .detach) w
    (sent, { g with state := .detached }, Channels.disconnect control w)

end Gateway

end ModuleProxy
