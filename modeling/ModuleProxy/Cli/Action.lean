import ModuleProxy.Cli.Log
import ModuleProxy.Config
import ModuleProxy.Module.Catalog

/-!
What a command does in the world, as data: each step says what to do and how to go on with the
outcome. A command can be carried out in a world in memory as well as in the real one.
-/

namespace ModuleProxy.Cli

structure ListenRequest where
  guest : String
  controlId : String
  config : ProxyConfig
  deriving DecidableEq, Repr

inductive Action (α : Type) where
  | done (value : α)
  | readFile (path : String) (next : Except IoError Bytes → Action α)
  | readInput (next : Except IoError Bytes → Action α)
  | writeFile (path : String) (content : Bytes) (next : Except IoError Unit → Action α)
  | print (output : Bytes) (next : Action α)
  | tell (line : String) (next : Action α)
  | listen (request : ListenRequest) (next : Except ProxyError Unit → Action α)
  | serve (next : Except ProxyError Unit → Action α)
  | leave (next : Except ProxyError Unit → Action α)

namespace Action

variable {α β : Type}

def bind : Action α → (α → Action β) → Action β
  | done value, f => f value
  | readFile path next, f => readFile path fun result => (next result).bind f
  | readInput next, f => readInput fun result => (next result).bind f
  | writeFile path content next, f => writeFile path content fun result => (next result).bind f
  | print output next, f => print output (next.bind f)
  | tell line next, f => tell line (next.bind f)
  | listen request next, f => listen request fun result => (next result).bind f
  | serve next, f => serve fun result => (next result).bind f
  | leave next, f => leave fun result => (next result).bind f

instance : Monad Action where
  pure := done
  bind := bind

end Action

end ModuleProxy.Cli
