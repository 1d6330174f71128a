import ModuleProxy.Cli.FieldTable
import ModuleProxy.Control.Message
import ModuleProxy.Json.Value
import ModuleProxy.Message.Format

namespace ModuleProxy.Cli

inductive OutputFormat where
  | json
  | table
  | pretty
  | raw
  deriving DecidableEq, Repr

def preview (bytes : Bytes) : String :=
  (Text.Utf8.decode? bytes).getD ("<binary " ++ toString bytes.length ++ " bytes>")

def textLine (text : String) : Bytes :=
  Text.Utf8.encode (text ++ "\n")

namespace MessageReport

def json (m : Message) : JsonValue :=
  .object [
    ("frame_size", .natural m.encodedSize),
    ("property_count", .natural m.properties.size),
    ("properties", .array (m.properties.toList.map fun entry =>
      .object [("key", .string entry.1), ("value", .string entry.2)])),
    ("content_size", .natural m.content.length),
    ("content", .string (preview m.content))]

def table (m : Message) : FieldTable where
  rows := (m.properties.toList.map fun entry => ("property " ++ entry.1, entry.2)) ++
    [("content (" ++ toString m.content.length ++ " bytes)", preview m.content)]

def pretty (m : Message) : String :=
  let head := "message size=" ++ toString m.encodedSize ++ " properties=" ++
    toString m.properties.size ++ " content=" ++ toString m.content.length
  let properties := m.properties.toList.map fun entry => "  " ++ entry.1 ++ "=" ++ entry.2
  String.intercalate "\n" (head :: properties ++ ["  content: " ++ preview m.content])

def render (m : Message) : OutputFormat → Bytes
  | .json => textLine (json m).print
  | .table => textLine (table m).render
  | .pretty => textLine (pretty m)
  | .raw => m.content

end MessageReport

structure Entry where
  key : String
  label : String
  value : JsonValue

namespace Entry

def ofNat (key label : String) (n : Nat) : Entry :=
  ⟨key, label, .natural n⟩

def ofText (key label text : String) : Entry :=
  ⟨key, label, .string text⟩

def text (e : Entry) : String :=
  match e.value with
  | .string text => text
  | value => value.print

end Entry

namespace ControlReport

def uriType (uri : ChannelUri) : List Entry :=
  if uri.typeName = "" then [] else [.ofText "uri_type" "uri type" uri.typeName]

def bodyEntries : ControlBody → List Entry
  | .create request =>
    [.ofNat "gateway_message_version" "gateway message version" request.messageVersion.toNat,
      .ofText "uri" "uri" request.uri.text] ++ uriType request.uri ++
      [.ofText "args" "args" (preview request.args)]
  | .reply status => [.ofText "status" "status" status.name]
  | .start | .destroy => []

def entries (m : ControlMessage) : List Entry :=
  [.ofNat "version" "version" m.version.toNat, .ofText "message_type" "type" m.body.kind.name,
    .ofNat "frame_size" "size" m.encodedSize] ++ bodyEntries m.body

def json (m : ControlMessage) : JsonValue :=
  .object ((entries m).map fun e => (e.key, e.value))

def table (m : ControlMessage) : FieldTable where
  rows := (entries m).map fun e => (e.label, e.text)

def joinWords (label : String) : String :=
  label.map fun c => if c = ' ' then '_' else c

def pretty (m : ControlMessage) : String :=
  String.intercalate " " ("control" :: (entries m).map fun e => joinWords e.label ++ "=" ++ e.text)

def render (m : ControlMessage) (frame : Bytes) : OutputFormat → Bytes
  | .json => textLine (json m).print
  | .table => textLine (table m).render
  | .pretty => textLine (pretty m)
  | .raw => frame

end ControlReport

end ModuleProxy.Cli
