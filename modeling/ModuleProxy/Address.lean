import ModuleProxy.Control.Uri
import ModuleProxy.EndpointError
import ModuleProxy.Text.Path

namespace ModuleProxy

structure ChannelAddress where
  path : String
  deriving Repr

namespace ChannelAddress

def after? : (front text : List Char) → Option (List Char)
  | [], text => some text
  | a :: front, b :: text => if a = b then after? front text else none
  | _ :: _, [] => none

def hasScheme (text : List Char) : Bool :=
  match text with
  | [] => false
  | _ :: rest => (after? "://".toList text).isSome || hasScheme rest

def pathOf? (id : String) : Option String :=
  match after? ipcScheme.toList id.toList with
  | some rest => some (String.ofList rest)
  | none => if hasScheme id.toList then none else some id

def parse (id : String) : Except EndpointError ChannelAddress :=
  match pathOf? id with
  | none => .error (.invalidAddress id "unsupported scheme")
  | some path =>
    if path.isEmpty then .error (.invalidAddress id "empty channel path")
    else if path.toList.contains '\x00' then
      .error (.invalidAddress id "channel path contains NUL")
    else .ok ⟨path⟩

def uri (a : ChannelAddress) : String :=
  ipcScheme ++ a.path

def socketPath (a : ChannelAddress) (base : Option String) : String :=
  match base with
  | none => a.path
  | some base => Text.Path.join base a.path

def beq (a b : ChannelAddress) : Bool :=
  Text.Path.same a.path b.path

instance : BEq ChannelAddress := ⟨beq⟩

end ChannelAddress

end ModuleProxy
