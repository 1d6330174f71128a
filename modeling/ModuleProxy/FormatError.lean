import ModuleProxy.Frame.Kind
import ModuleProxy.Text.Quoted

namespace ModuleProxy

inductive PropertyPart where
  | key
  | value
  deriving DecidableEq, Repr

namespace PropertyPart

def name : PropertyPart → String
  | .key => "key"
  | .value => "value"

end PropertyPart

inductive FormatError where
  | missingArgument (name : String)
  | wrongSignature (expected : FrameKind)
  | sizeBelowMinimum (size : Int) (minimum : Nat)
  /-- A property count that is negative, or the one above every count in use. -/
  | badPropertyCount (count : Int)
  | unterminatedProperty (index : Nat) (part : PropertyPart)
  | truncated (field : String) (needed available : Nat)
  | unterminatedField (field : String)
  | sizeMismatch (declared : Int) (actual : Nat)
  | notAChannelUri (text : String)
  | notUtf8 (field : String)
  | nulInProperty (text : String)
  | frameTooLarge (size limit : Nat)
  | unexpectedControlKind (expected : String) (code : UInt8)
  | unknownControlKind (code : UInt8)
  | unsupportedVersion (version : UInt8)
  | unknownReplyStatus (code : UInt8)
  deriving DecidableEq, Repr

namespace FormatError

def byteLiteral (b : UInt8) : String :=
  "0x" ++ (if b < 16 then "0" else "") ++ Text.hexDigits b.toNat

def message : FormatError → String
  | .missingArgument name => name ++ " cannot be null"
  | .wrongSignature expected =>
    "header bytes are missing or incorrect for a " ++ expected.name ++ " frame"
  | .sizeBelowMinimum size minimum =>
    "invalid frame size " ++ toString size ++ " (minimum " ++ toString minimum ++ ")"
  | .badPropertyCount count =>
    "invalid property count " ++ toString count ++ ": " ++
      (if count < 0 then "can't be negative" else "can't exceed i32::MAX")
  | .unterminatedProperty index part =>
    "property " ++ toString index ++ " " ++ part.name ++ " was not NUL-terminated"
  | .truncated field needed available =>
    "could not read " ++ field ++ ": need " ++ toString needed ++ " bytes, " ++
      toString available ++ " available"
  | .unterminatedField field => field ++ " is not NUL-terminated"
  | .sizeMismatch declared actual =>
    "content size mismatch: declared " ++ toString declared ++ ", actual " ++ toString actual
  | .notAChannelUri text => "message channel URI does not start with 'ipc://': " ++ text
  | .notUtf8 field => field ++ " is not valid UTF-8"
  | .nulInProperty text => "property " ++ Text.quote text ++ " contains a NUL byte"
  | .frameTooLarge size limit =>
    "frame too large (" ++ toString size ++ " bytes, max " ++ toString limit ++ ")"
  | .unexpectedControlKind expected code =>
    "expected " ++ expected ++ " control message, got type " ++ toString code.toNat
  | .unknownControlKind code => "unknown control message type " ++ toString code.toNat
  | .unsupportedVersion version =>
    "unsupported control message version " ++ toString version.toNat
  | .unknownReplyStatus code => "invalid reply status " ++ byteLiteral code

end FormatError

end ModuleProxy
