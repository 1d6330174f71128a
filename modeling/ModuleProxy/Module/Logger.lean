import ModuleProxy.Files
import ModuleProxy.Json.Parser
import ModuleProxy.Module.Basic
import ModuleProxy.Text.Hex

namespace ModuleProxy

class FileWorld (ω : Type) where
  files : ω → FileTree
  setFiles : FileTree → ω → ω
  now : ω → Nat

structure Logger where
  sink : Option String := none
  deriving DecidableEq, Repr

namespace Logger

abbrev Member := String × JsonValue

def sign (text : String) : List Member :=
  [("content", .string text)]

def contentMember (content : Bytes) : Member :=
  match Text.Utf8.decode? content with
  | some text => ("content", .string text)
  | none => ("content_hex", .string (Text.Hex.encode content))

def propertiesMember (ps : Properties) : Member :=
  ("properties", .object ((ps.toList.mergeSort fun a b => a.1 ≤ b.1).map fun entry =>
    (entry.1, .string entry.2)))

def line (time : Nat) (members : List Member) : String :=
  (JsonValue.object (members ++ [("time", .natural time)])).print ++ "\n"

def isBlank (b : UInt8) : Bool :=
  b == 32 || b == 9 || b == 10 || b == 12 || b == 13

def filename? (args : Bytes) : Option (Option String) :=
  if args.all isBlank then some none
  else do
    match ← (← JsonValue.parse? (← Text.Utf8.decode? args)).fieldsOf? ["filename"] with
    | [filename] => JsonValue.optionalText? filename
    | _ => none

variable {ω : Type} [FileWorld ω]

def record (l : Logger) (members : List Member) (w : ω) : ω :=
  match l.sink with
  | none => w
  | some path =>
    let text := line (FileWorld.now w) members
    match (FileWorld.files w).append path (Text.Utf8.encode text) with
    | .error _ => w
    | .ok files => FileWorld.setFiles files w

def openSink (path : String) (files : FileTree) : Except Cause FileTree :=
  match files.append path [] with
  | .ok files => .ok files
  | .error e => .error (.text ("cannot open " ++ path ++ ": " ++ e.text))

def create (l : Logger) (args : Bytes) (w : ω) : Except Cause Unit × Logger × ω :=
  match filename? args with
  | none => (.error (.text "malformed arguments"), l, w)
  | some none => (.ok (), ⟨none⟩, w)
  | some (some path) =>
    match openSink path (FileWorld.files w) with
    | .error cause => (.error cause, l, w)
    | .ok files =>
      let l : Logger := ⟨some path⟩
      (.ok (), l, l.record (sign "Log started") (FileWorld.setFiles files w))

def receive (l : Logger) (m : Message) (w : ω) : ω :=
  l.record [contentMember m.content, propertiesMember m.properties] w

def destroy (l : Logger) (w : ω) : Logger × ω :=
  (⟨none⟩, l.record (sign "Log stopped") w)

end Logger

end ModuleProxy
