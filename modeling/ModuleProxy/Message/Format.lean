import ModuleProxy.Message.Basic

/-!
The wire form of a message:

    A1 60 | total size | property count | key 00 value 00 ... | content size | content

with sizes and counts in four bytes each. `encode` writes it and `decode` reads it, reporting the
first fault in the order of the bytes.
-/

namespace ModuleProxy.Message

def encodePairs (pairs : List (String × String)) : Bytes :=
  pairs.flatMap fun pair =>
    Text.Utf8.encode pair.1 ++ 0 :: (Text.Utf8.encode pair.2 ++ [0])

def frame (m : Message) : Bytes :=
  FrameKind.message.signature ++ Bytes.be32 m.encodedSize ++ Bytes.be32 m.properties.size ++
    encodePairs m.properties.toList ++ Bytes.be32 m.content.length ++ m.content

def encode (m : Message) : Except FormatError Bytes :=
  if m.encodedSize > maxFrameSize then .error (.frameTooLarge m.encodedSize maxFrameSize)
  else .ok m.frame

def appendTo (buffer : Bytes) (m : Message) : Except FormatError Unit × Bytes :=
  match m.encode with
  | .error e => (.error e, buffer)
  | .ok bytes => (.ok (), buffer ++ bytes)

def encodeOnto (buffer : Bytes) (m : Message) : Except FormatError Bytes :=
  let (result, buffer) := m.appendTo buffer
  result.map fun () => buffer

def splitAtNul? (bytes : Bytes) : Option (Bytes × Bytes) :=
  match bytes.dropWhile (· != 0) with
  | [] => none
  | _ :: rest => some (bytes.takeWhile (· != 0), rest)

def readText (index : Nat) (part : PropertyPart) (bytes : Bytes) :
    Except FormatError (String × Bytes) :=
  match splitAtNul? bytes with
  | none => .error (.unterminatedProperty index part)
  | some (raw, rest) =>
    match Text.Utf8.decode? raw with
    | none => .error (.notUtf8 ("property " ++ part.name))
    | some text => .ok (text, rest)

def readProperties (count index : Nat) (bytes : Bytes) (ps : Properties) :
    Except FormatError (Properties × Bytes) :=
  match count with
  | 0 => .ok (ps, bytes)
  | count + 1 =>
    match readText index .key bytes with
    | .error e => .error e
    | .ok (key, rest) =>
      match readText index .value rest with
      | .error e => .error e
      | .ok (value, rest) => readProperties count (index + 1) rest (ps.put key value).1

def readInt (field : String) (bytes : Bytes) : Except FormatError Int :=
  match bytes.int32At? 0 with
  | none => .error (.truncated field 4 bytes.length)
  | some n => .ok n

def readContent (bytes : Bytes) : Except FormatError Bytes := do
  let declared ← readInt "content length" bytes
  let content := bytes.drop 4
  if declared = content.length then .ok content
  else .error (.sizeMismatch declared content.length)

def decode (bytes : Bytes) : Except FormatError Message := do
  let minimum := FrameKind.message.minSize
  if bytes.length < minimum then
    throw (.sizeBelowMinimum bytes.length minimum)
  unless FrameKind.message.signature.isPrefixOf bytes do
    throw (.wrongSignature .message)
  let declared ← readInt "total size" (bytes.drop 2)
  if declared < minimum then
    throw (.sizeBelowMinimum declared minimum)
  unless declared = bytes.length do
    throw (.sizeMismatch declared bytes.length)
  let count ← readInt "property count" (bytes.drop 6)
  if count < 0 ∨ count = 0x7FFFFFFF then
    throw (.badPropertyCount count)
  let (properties, rest) ← readProperties count.toNat 0 (bytes.drop 10) .empty
  let content ← readContent rest
  return { content, properties }

end ModuleProxy.Message
