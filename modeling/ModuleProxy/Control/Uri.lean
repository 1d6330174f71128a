import ModuleProxy.Control.Kind
import ModuleProxy.Text.Utf8

/-!
The URI of a message channel, and its record on the wire:

    type | size of the text and its NUL | text | 00

with the size in four bytes.
-/

namespace ModuleProxy

def ipcScheme : String := "ipc://"

structure ChannelUri where
  socketType : UInt8
  text : String
  deriving DecidableEq, Repr

namespace ChannelUri

def pairType : UInt8 := 16

def ofTyped (socketType : UInt8) (text : String) : Except FormatError ChannelUri :=
  if ipcScheme.toList.isPrefixOf text.toList && !text.toList.contains '\x00' then
    .ok ⟨socketType, text⟩
  else .error (.notAChannelUri text)

def ofText (text : String) : Except FormatError ChannelUri :=
  ofTyped pairType text

def typeName (uri : ChannelUri) : String :=
  if uri.socketType = pairType then "pair" else ""

def encodedSize (uri : ChannelUri) : Nat :=
  5 + Text.Utf8.size uri.text + 1

def encode (uri : ChannelUri) : Bytes :=
  uri.socketType :: Bytes.be32 (Text.Utf8.size uri.text + 1) ++ Text.Utf8.encode uri.text ++ [0]

def dropTerminator? (bytes : Bytes) : Option Bytes :=
  if bytes.getLast? = some 0 then some bytes.dropLast else none

def decodeAt (bytes : Bytes) (offset : Nat) : Except FormatError (ChannelUri × Nat) := do
  let record : Bytes := bytes.drop offset
  let socketType ← match record with
    | [] => throw (.truncated "uri type" 1 (bytes.length - offset))
    | socketType :: _ => pure socketType
  let size ← match record.word32At? 1 with
    | none => throw (.truncated "uri length" 4 (bytes.length - offset - 1))
    | some size => pure size
  let raw := (record.drop 5).take size
  unless raw.length = size do
    throw (.truncated "channel uri" size (bytes.length - (offset + 5)))
  match dropTerminator? raw with
  | none => throw (.unterminatedField "channel uri")
  | some raw =>
    match Text.Utf8.decode? raw with
    | none => throw (.notUtf8 "channel uri")
    | some text =>
      let uri ← ofTyped socketType text
      return (uri, 5 + size)

end ChannelUri

end ModuleProxy
