import ModuleProxy.FormatError
import ModuleProxy.IoError

namespace ModuleProxy

inductive StreamError where
  | io (error : IoError)
  | closed
  | format (error : FormatError)
  deriving DecidableEq, Repr

namespace StreamError

def message : StreamError → String
  | .io error => "frame I/O error: " ++ error.text
  | .closed => "connection closed (incomplete frame)"
  | .format error => error.message

def sources : StreamError → List String
  | .io error => [error.text]
  | .closed | .format _ => []

end StreamError

structure FrameLimits where
  maxSize : Nat := defaultFrameLimit
  readTimeout : Option Nat := none
  writeTimeout : Option Nat := none
  deriving DecidableEq, Repr

def checkLimit (limit size : Nat) : Except StreamError Unit :=
  if size > limit then .error (.format (.frameTooLarge size limit)) else .ok ()

end ModuleProxy
