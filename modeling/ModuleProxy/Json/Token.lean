import ModuleProxy.Json.Value

namespace ModuleProxy

inductive JsonToken where
  | mark (c : Char)
  | null
  | bool (value : Bool)
  | natural (value : Nat)
  | number (text : String)
  | string (text : String)
  deriving DecidableEq, Repr

namespace JsonToken

def isBlank (c : Char) : Bool :=
  c == ' ' || c == '\t' || c == '\n' || c == '\r'

def isMark (c : Char) : Bool :=
  c == '[' || c == ']' || c == '\x7b' || c == '\x7d' || c == ':' || c == ','

def hexValue? (c : Char) : Option Nat :=
  if '0' ≤ c && c ≤ '9' then some (c.toNat - 48)
  else if 'a' ≤ c && c ≤ 'f' then some (c.toNat - 87)
  else if 'A' ≤ c && c ≤ 'F' then some (c.toNat - 55)
  else none

def unit? (a b c d : Char) : Option Nat := do
  return ((← hexValue? a) * 16 + (← hexValue? b)) * 256 + ((← hexValue? c) * 16 + (← hexValue? d))

def shortEscape? : Char → Option Char
  | '"' => some '"'
  | '\\' => some '\\'
  | '/' => some '/'
  | 'b' => some '\x08'
  | 'f' => some '\x0c'
  | 'n' => some '\n'
  | 'r' => some '\r'
  | 't' => some '\t'
  | _ => none

/-- The rest of a string after its opening mark, and the text behind it. Escaped surrogates have
to come in pairs. The second argument is what was read so far, in reverse. -/
def readString : List Char → List Char → Option (String × List Char)
  | '"' :: rest, done => some (String.ofList done.reverse, rest)
  | '\\' :: 'u' :: a :: b :: c :: d :: rest, done =>
    match unit? a b c d with
    | none => none
    | some high =>
      if high < 0xD800 || 0xDFFF < high then readString rest (Char.ofNat high :: done)
      else
        match rest with
        | '\\' :: 'u' :: a :: b :: c :: d :: rest =>
          match unit? a b c d with
          | none => none
          | some low =>
            if high < 0xDC00 && 0xDC00 ≤ low && low ≤ 0xDFFF then
              readString rest
                (Char.ofNat (0x10000 + (high - 0xD800) * 0x400 + (low - 0xDC00)) :: done)
            else none
        | _ => none
  | '\\' :: c :: rest, done =>
    match shortEscape? c with
    | none => none
    | some c => readString rest (c :: done)
  | c :: rest, done => if c.toNat < 32 || c == '\\' then none else readString rest (c :: done)
  | [], _ => none

def isDigit (c : Char) : Bool :=
  '0' ≤ c && c ≤ '9'

def isNumberChar (c : Char) : Bool :=
  isDigit c || c == '-' || c == '+' || c == '.' || c == 'e' || c == 'E'

def dropWhole? : List Char → Option (List Char)
  | '0' :: rest => some rest
  | c :: rest => if isDigit c then some (rest.dropWhile isDigit) else none
  | [] => none

def dropDigits? : List Char → Option (List Char)
  | c :: rest => if isDigit c then some (rest.dropWhile isDigit) else none
  | [] => none

def dropFraction? : List Char → Option (List Char)
  | '.' :: rest => dropDigits? rest
  | text => some text

def dropExponent? : List Char → Option (List Char)
  | c :: rest =>
    if c == 'e' || c == 'E' then
      match rest with
      | '+' :: rest | '-' :: rest => dropDigits? rest
      | _ => dropDigits? rest
    else some (c :: rest)
  | [] => some []

def dropSign : List Char → List Char
  | '-' :: rest => rest
  | text => text

def isNumber (text : List Char) : Bool :=
  (do dropExponent? (← dropFraction? (← dropWhole? (dropSign text)))) == some []

def naturalValue (digits : List Char) : Nat :=
  digits.foldl (fun n c => n * 10 + (c.toNat - 48)) 0

def ofNumber? (text : List Char) : Option JsonToken :=
  if isNumber text then
    some (if text.all isDigit then .natural (naturalValue text) else .number (String.ofList text))
  else none

def next? : List Char → Option (JsonToken × List Char)
  | 'n' :: 'u' :: 'l' :: 'l' :: rest => some (.null, rest)
  | 't' :: 'r' :: 'u' :: 'e' :: rest => some (.bool true, rest)
  | 'f' :: 'a' :: 'l' :: 's' :: 'e' :: rest => some (.bool false, rest)
  | '"' :: rest => (readString rest []).map fun (text, rest) => (.string text, rest)
  | c :: rest =>
    if isMark c then some (.mark c, rest)
    else do
      let token ← ofNumber? ((c :: rest).takeWhile isNumberChar)
      return (token, (c :: rest).dropWhile isNumberChar)
  | [] => none

def scanFrom (steps : Nat) (text : List Char) (found : List JsonToken) : Option (List JsonToken) :=
  match text.dropWhile isBlank, steps with
  | [], _ => some found.reverse
  | _, 0 => none
  | text, steps + 1 =>
    match next? text with
    | none => none
    | some (token, rest) => scanFrom steps rest (token :: found)

def scan (text : String) : Option (List JsonToken) :=
  scanFrom text.length text.toList []

end JsonToken

end ModuleProxy
