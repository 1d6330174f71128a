import ModuleProxy.ProxyError

namespace ModuleProxy.Cli

inductive ExitCode where
  | success
  | failure
  | misuse
  | transport
  | permissionDenied
  | invalidData
  | usage
  | timeout
  | internal
  deriving DecidableEq, Repr

def ExitCode.number : ExitCode → Nat
  | .success => 0
  | .failure => 1
  | .misuse => 2
  | .transport => 3
  | .permissionDenied => 50
  | .invalidData => 60
  | .usage => 64
  | .timeout => 124
  | .internal => 125

structure CliError where
  code : ExitCode
  text : String
  deriving DecidableEq, Repr

namespace CliError

def ofIo (context : String) (e : IoError) : CliError where
  code := match e.kind with
    | .permissionDenied => .permissionDenied
    | .timedOut | .wouldBlock => .timeout
    | .notFound | .connectionRefused => .failure
    | _ => .internal
  text := context ++ ": " ++ e.text

def ofEndpointIo (context : String) (e : IoError) : CliError :=
  let error := ofIo context e
  if error.code = .internal then { error with code := .transport } else error

def ofEndpoint (context : String) (e : EndpointError) : CliError :=
  match e with
  | .bind _ io | .connect _ io | .accept io | .io io => ofEndpointIo context io
  | .invalidAddress .. | .pathTooLong .. => ⟨.usage, context ++ ": " ++ e.message⟩

def ofFormat (context : String) (e : FormatError) : CliError where
  code := match e with
    | .missingArgument _ => .internal
    | _ => .invalidData
  text := context ++ ": " ++ e.message

def ofStream (context : String) (e : StreamError) : CliError :=
  match e with
  | .io io => ofIo context io
  | .closed => ⟨.failure, context ++ ": " ++ e.message⟩
  | .format error => ofFormat context error

def ofProxy (context : String) (e : ProxyError) : CliError :=
  match e with
  | .endpoint error => ofEndpoint context error
  | .stream error => ofStream context error
  | .format error => ofFormat context error
  | .config _ => ⟨.usage, context ++ ": " ++ e.message⟩
  | .moduleCreate _ | .publishFailure _ | .disconnected _ =>
    ⟨.failure, context ++ ": " ++ e.message⟩
  | .alreadyAttached | .notAttached => ⟨.internal, context ++ ": " ++ e.message⟩

end CliError

end ModuleProxy.Cli
