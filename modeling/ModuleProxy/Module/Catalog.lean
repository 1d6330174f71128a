import ModuleProxy.Module.Echo
import ModuleProxy.Module.Logger
import ModuleProxy.Module.Recorder

namespace ModuleProxy

inductive Guest (β : Type) where
  | echo (echo : Echo β)
  | logger (logger : Logger)
  | recorder (recorder : Recorder β)

namespace Guest

variable {β ω : Type} [Publisher β ω] [Journal ω] [FileWorld ω]

instance : ProxiedModule (Guest β) β ω where
  create
    | .echo e, broker, _, w => (.ok (), .echo (e.create broker), w)
    | .logger l, _, args, w =>
      let (result, l, w) := l.create args w
      (result, .logger l, w)
    | .recorder r, broker, args, w =>
      let (result, r, w) := r.create broker args w
      (result, .recorder r, w)
  receive
    | .echo e, m, w => (.echo e, e.receive m w)
    | .logger l, m, w => (.logger l, l.receive m w)
    | .recorder r, m, w => ((r.receive m w).map .recorder id)
  destroy
    | .echo _, w => (.echo ⟨none⟩, w)
    | .logger l, w => (l.destroy w).map .logger id
    | .recorder r, w => (r.destroy w).map .recorder id
  hasStart
    | .echo _ => false
    | .logger _ => true
    | .recorder r => r.settings.hasStart
  start
    | .recorder r, w => (r.start w).map .recorder id
    | guest, w => (guest, w)

end Guest

structure Catalog (μ : Type) where
  entries : List (String × μ) := []

namespace Catalog

variable {μ : Type}

def register (c : Catalog μ) (name : String) (fresh : μ) : Catalog μ :=
  ⟨(name, fresh) :: c.entries.filter (·.1 != name)⟩

def instantiate (c : Catalog μ) (name : String) : Except ProxyError μ :=
  match c.entries.lookup name with
  | some fresh => .ok fresh
  | none => .error (.moduleCreate (.text ("unknown module '" ++ name ++ "'")))

def names (c : Catalog μ) : List String :=
  (c.entries.map (·.1)).mergeSort (· ≤ ·)

def builtIn {β : Type} : Catalog (Guest β) :=
  ⟨[("echo", .echo {}), ("logger", .logger {})]⟩

end Catalog

end ModuleProxy
