import ModuleProxy.Cli.Run
import ModuleProxy.Gateway
import ModuleProxy.Sandbox

namespace ModuleProxy.Cli

structure Desk where
  world : Sandbox := {}
  input : Bytes := []
  printed : List Bytes := []
  told : List String := []
  proxy : Option (Gateway (Guest SocketHandle) SocketHandle) := none
  rounds : Nat := 1000000

namespace Desk

def ofFiles (files : FileTree) (input : Bytes) : Desk where
  world := { hub := { system := { files } } }
  input := input

def files (d : Desk) : FileTree :=
  FileWorld.files d.world

def output (d : Desk) : Bytes :=
  d.printed.reverse.flatten

def notes (d : Desk) : String :=
  String.join (d.told.reverse.map (· ++ "\n"))

def writeFile (d : Desk) (path : String) (content : Bytes) : Except IoError Unit × Desk :=
  match d.files.write path content with
  | .error e => (.error e, d)
  | .ok files => (.ok (), { d with world := FileWorld.setFiles files d.world })

def listen (d : Desk) (request : ListenRequest) : Except ProxyError Unit × Desk :=
  match Catalog.builtIn.instantiate request.guest with
  | .error e => (.error e, d)
  | .ok guest =>
    let hub := { d.world.hub with
      base := request.config.socketDir, limits := request.config.frameLimits }
    let proxy : Gateway (Guest SocketHandle) SocketHandle := { guest, config := request.config }
    let (result, proxy, world) := proxy.attach request.controlId { d.world with hub }
    (result, { d with proxy := some proxy, world })

def onProxy {α : Type} (d : Desk)
    (operation : Gateway (Guest SocketHandle) SocketHandle → Sandbox →
      Except ProxyError α × Gateway (Guest SocketHandle) SocketHandle × Sandbox) :
    Except ProxyError Unit × Desk :=
  match d.proxy with
  | none => (.error .notAttached, d)
  | some proxy =>
    let (result, proxy, world) := operation proxy d.world
    (result.map fun _ => (), { d with proxy := some proxy, world })

def perform {α : Type} (d : Desk) : Action α → α × Desk
  | .done value => (value, d)
  | .readFile path next => d.perform (next (d.files.read path))
  | .readInput next => perform { d with input := [] } (next (.ok d.input))
  | .writeFile path content next =>
    (d.writeFile path content).2.perform (next (d.writeFile path content).1)
  | .print output next => perform { d with printed := output :: d.printed } next
  | .tell line next => perform { d with told := line :: d.told } next
  | .listen request next => (d.listen request).2.perform (next (d.listen request).1)
  | .serve next =>
    let (result, d) := d.onProxy (Gateway.run Sandbox.stopRequested d.rounds)
    d.perform (next result)
  | .leave next =>
    let (result, d) := d.onProxy Gateway.detach
    d.perform (next result)

end Desk

end ModuleProxy.Cli
