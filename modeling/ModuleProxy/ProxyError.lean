import ModuleProxy.EndpointError
import ModuleProxy.Frame.StreamError

namespace ModuleProxy

mutual

inductive ProxyError where
  | endpoint (error : EndpointError)
  | stream (error : StreamError)
  | format (error : FormatError)
  | alreadyAttached
  | notAttached
  | publishFailure (cause : Cause)
  | moduleCreate (cause : Cause)
  | disconnected (reason : String)
  | config (reason : String)

inductive Cause where
  | text (text : String)
  | format (error : FormatError)
  | proxy (error : ProxyError)

end

mutual

def ProxyError.message : ProxyError → String
  | .endpoint error => "transport error: " ++ error.message
  | .stream error => "frame error: " ++ error.message
  | .format error => "codec error: " ++ error.message
  | .alreadyAttached => "proxy gateway is already attached"
  | .notAttached => "proxy gateway is not attached"
  | .publishFailure _ => "failed to publish message"
  | .moduleCreate cause => "module create failed: " ++ cause.message
  | .disconnected reason => "channel disconnected: " ++ reason
  | .config reason => "invalid configuration: " ++ reason

def Cause.message : Cause → String
  | .text text => text
  | .format error => error.message
  | .proxy error => error.message

end

mutual

def ProxyError.sources : ProxyError → List String
  | .endpoint error => error.message :: error.sources
  | .stream error => error.message :: error.sources
  | .format error => [error.message]
  | .publishFailure cause | .moduleCreate cause => cause.message :: cause.sources
  | .alreadyAttached | .notAttached | .disconnected _ | .config _ => []

def Cause.sources : Cause → List String
  | .text _ | .format _ => []
  | .proxy error => error.sources

end

end ModuleProxy
