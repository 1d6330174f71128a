import ModuleProxy.Json.Token

/-!
JSON values from tokens. No construct takes more steps than it has tokens, so their number bounds
the recursion. `fieldsOf?` reads a value as a record whose fields all have defaults.
-/

namespace ModuleProxy.JsonValue

mutual

def readValue (steps : Nat) (tokens : List JsonToken) : Option (JsonValue × List JsonToken) :=
  match steps, tokens with
  | _ + 1, .mark '[' :: .mark ']' :: rest => some (.array [], rest)
  | steps + 1, .mark '[' :: rest => do
    let (items, rest) ← readItems steps rest
    return (.array items, rest)
  | _ + 1, .mark '\x7b' :: .mark '\x7d' :: rest => some (.object [], rest)
  | steps + 1, .mark '\x7b' :: rest => do
    let (members, rest) ← readMembers steps rest
    return (.object members, rest)
  | _ + 1, .null :: rest => some (.null, rest)
  | _ + 1, .bool value :: rest => some (.bool value, rest)
  | _ + 1, .natural value :: rest => some (.natural value, rest)
  | _ + 1, .number text :: rest => some (.number text, rest)
  | _ + 1, .string text :: rest => some (.string text, rest)
  | _, _ => none

def readItems (steps : Nat) (tokens : List JsonToken) :
    Option (List JsonValue × List JsonToken) :=
  match steps with
  | 0 => none
  | steps + 1 => do
    let (item, rest) ← readValue steps tokens
    match rest with
    | .mark ']' :: rest => return ([item], rest)
    | .mark ',' :: rest =>
      let (items, rest) ← readItems steps rest
      return (item :: items, rest)
    | _ => none

def readMembers (steps : Nat) (tokens : List JsonToken) :
    Option (List (String × JsonValue) × List JsonToken) :=
  match steps, tokens with
  | steps + 1, .string key :: .mark ':' :: rest => do
    let (value, rest) ← readValue steps rest
    match rest with
    | .mark '\x7d' :: rest => return ([(key, value)], rest)
    | .mark ',' :: rest =>
      let (members, rest) ← readMembers steps rest
      return ((key, value) :: members, rest)
    | _ => none
  | _, _ => none

end

def parse? (text : String) : Option JsonValue := do
  let tokens ← JsonToken.scan text
  match ← readValue (tokens.length + 1) tokens with
  | (value, []) => return value
  | _ => none

/-- The values of the fields `names`, where they are given: an object may leave out any, but names
no other and none twice; an array gives them in order and may be shorter. -/
def fieldsOf? (names : List String) : JsonValue → Option (List (Option JsonValue))
  | .object members =>
    let keys := members.map (·.1)
    if keys.all names.contains && keys.eraseDups.length == keys.length then
      some (names.map fun name => members.lookup name)
    else none
  | .array items =>
    if items.length ≤ names.length then
      some (items.map some ++ List.replicate (names.length - items.length) none)
    else none
  | _ => none

def optionalText? : Option JsonValue → Option (Option String)
  | none | some .null => some none
  | some (.string text) => some (some text)
  | _ => none

def word64? (default : Nat) : Option JsonValue → Option Nat
  | none => some default
  | some (.natural n) => if n < 0x10000000000000000 then some n else none
  | _ => none

end ModuleProxy.JsonValue
