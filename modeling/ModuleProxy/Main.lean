import ModuleProxy.Cli.Run

/-!
The program in the real world. Sockets at paths cannot be had here, so a proxy comes as far as the
channel that it would listen on.
-/

namespace ModuleProxy.Cli

namespace Console

def ioError : IO.Error → IoError
  | .noFileOrDirectory .. => .notFound
  | .alreadyExists .. => .alreadyExists
  | .permissionDenied _ number _ => .ofOs .permissionDenied "Permission denied" number.toNat
  | .inappropriateType _ 21 _ => .isADirectory
  | .inappropriateType .. => .notADirectory
  | .resourceVanished .. => .brokenPipe
  | e => ⟨.other, toString e⟩

def attempt {α : Type} (action : IO α) : IO (Except IoError α) := do
  try return .ok (← action) catch e => return .error (ioError e)

partial def readAll (stream : IO.FS.Stream) (found : ByteArray) : IO ByteArray := do
  let chunk ← stream.read 65536
  if chunk.isEmpty then return found else readAll stream (found ++ chunk)

def toBytes (content : ByteArray) : Bytes :=
  content.data.toList

def ofBytes (bytes : Bytes) : ByteArray :=
  ⟨bytes.toArray⟩

def listen (request : ListenRequest) : Except ProxyError Unit :=
  match ChannelAddress.parse request.controlId with
  | .error e => .error (.endpoint e)
  | .ok address =>
    let path := address.socketPath request.config.socketDir
    .error (.endpoint (.bind path ⟨.unsupported, "operation not supported on this platform"⟩))

def perform {α : Type} : Action α → IO α
  | .done value => return value
  | .readFile path next => do
    perform (next ((← attempt (IO.FS.readBinFile path)).map toBytes))
  | .readInput next => do
    let input ← IO.getStdin
    perform (next ((← attempt (readAll input .empty)).map toBytes))
  | .writeFile path content next => do
    perform (next (← attempt (IO.FS.writeBinFile path (ofBytes content))))
  | .print output next => do
    let stream ← IO.getStdout
    let _ ← attempt do
      stream.write (ofBytes output)
      stream.flush
    perform next
  | .tell line next => do
    IO.eprintln line
    perform next
  | .listen request next => perform (next (listen request))
  | .serve next => perform (next (.error .notAttached))
  | .leave next => perform (next (.error .notAttached))

def variableNames (program : CommandSpec) : List String :=
  (program.options ++ program.commands.flatMap (·.options)).filterMap (·.envName)

def environment : IO (List (String × String)) := do
  let values ← (variableNames CommandLine.program).mapM fun name => do
    return (← IO.getEnv name).map fun value => (name, value)
  return values.filterMap id

end Console

end ModuleProxy.Cli

open ModuleProxy.Cli in
def main (words : List String) : IO UInt32 := do
  let terminal ← (← IO.getStdout).isTty
  let code ← Console.perform (Start.run ⟨words, ← Console.environment, terminal⟩)
  return UInt32.ofNat code.number
