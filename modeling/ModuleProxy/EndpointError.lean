import ModuleProxy.IoError
import ModuleProxy.Text.Quoted

namespace ModuleProxy

inductive EndpointError where
  | bind (path : String) (error : IoError)
  | connect (path : String) (error : IoError)
  | accept (error : IoError)
  | io (error : IoError)
  | pathTooLong (path : String) (size limit : Nat)
  | invalidAddress (address reason : String)
  deriving DecidableEq, Repr

namespace EndpointError

def message : EndpointError → String
  | .bind path error => "failed to bind channel at " ++ path ++ ": " ++ error.text
  | .connect path error => "failed to connect channel at " ++ path ++ ": " ++ error.text
  | .accept error => "failed to accept channel peer: " ++ error.text
  | .io error => "channel I/O error: " ++ error.text
  | .pathTooLong path size limit =>
    "socket path too long (" ++ toString size ++ " bytes, max " ++ toString limit ++ "): " ++ path
  | .invalidAddress address reason =>
    "invalid channel address " ++ Text.quote address ++ ": " ++ reason

def sources : EndpointError → List String
  | .bind _ error | .connect _ error | .io error => [error.text]
  | .accept _ | .pathTooLong .. | .invalidAddress .. => []

end EndpointError

end ModuleProxy
