import ModuleProxy.Text.Quoted
import ModuleProxy.Text.Utf8

namespace ModuleProxy.Text.Hex

def digit (n : UInt8) : Char :=
  if n < 10 then Char.ofNat (n.toNat + 48) else Char.ofNat (n.toNat + 87)

def digits (bytes : Bytes) : List Char :=
  bytes.flatMap fun b => [digit (b / 16), digit (b % 16)]

def encode (bytes : Bytes) : String :=
  String.ofList (digits bytes)

inductive HexError where
  | oddCount (count : Nat)
  | notText
  | notAByte (text : String)
  deriving DecidableEq, Repr

def HexError.message : HexError → String
  | .oddCount count => "odd number of hex digits (" ++ toString count ++ ")"
  | .notText => "non-ASCII hex input"
  | .notAByte text => "invalid hex byte " ++ quote text

def digitValue? (b : UInt8) : Option UInt8 :=
  if 48 ≤ b && b ≤ 57 then some (b - 48)
  else if 65 ≤ b && b ≤ 70 then some (b - 55)
  else if 97 ≤ b && b ≤ 102 then some (b - 87)
  else none

/-- The number that two characters spell: two digits, or a plus sign and a digit. -/
def pairValue? (a b : UInt8) : Option UInt8 :=
  if a = 43 then digitValue? b
  else do
    let high ← digitValue? a
    let low ← digitValue? b
    return 16 * high + low

def readPair (a b : UInt8) : Except HexError UInt8 :=
  match pairValue? a b with
  | some value => .ok value
  | none =>
    match Utf8.decode? [a, b] with
    | none => .error .notText
    | some text => .error (.notAByte text)

def readPairs (digits found : Bytes) : Except HexError Bytes :=
  match digits with
  | a :: b :: rest =>
    match readPair a b with
    | .error e => .error e
    | .ok value => readPairs rest (value :: found)
  | _ => .ok found.reverse

def isBlank (b : UInt8) : Bool :=
  b == 32 || b == 9 || b == 10 || b == 12 || b == 13

def decode (text : String) : Except HexError Bytes :=
  let digits := (Utf8.encode text).filter (!isBlank ·)
  if digits.length % 2 = 0 then readPairs digits [] else .error (.oddCount digits.length)

end ModuleProxy.Text.Hex
