import Std.Data.HashMap
import ModuleProxy.FormatError
import ModuleProxy.Text.Utf8

/-!
The properties of a message: pairs of NUL-free texts with distinct keys, in the order in which the
keys first came. Beside the pairs stands an index from each key to its position.
-/

namespace ModuleProxy

structure Properties where
  entries : Array (String × String) := #[]
  index : Std.HashMap String Nat := ∅

namespace Properties

def empty : Properties := {}

def toList (ps : Properties) : List (String × String) :=
  ps.entries.toList

def size (ps : Properties) : Nat :=
  ps.entries.size

def isEmpty (ps : Properties) : Bool :=
  ps.entries.isEmpty

def keys (ps : Properties) : List String :=
  ps.toList.map (·.1)

def get? (ps : Properties) (key : String) : Option String := do
  let slot ← ps.index[key]?
  let entry ← ps.entries[slot]?
  return entry.2

def contains (ps : Properties) (key : String) : Bool :=
  ps.index.contains key

def put (ps : Properties) (key value : String) : Properties × Option String :=
  match ps.index[key]? with
  | some slot =>
    ({ ps with entries := ps.entries.modify slot fun entry => (entry.1, value) },
      ps.entries[slot]?.map (·.2))
  | none =>
    ({ entries := ps.entries.push (key, value), index := ps.index.insert key ps.entries.size },
      none)

def hasNul (text : String) : Bool :=
  text.toList.any (· == '\x00')

def insert (ps : Properties) (key value : String) :
    Except FormatError (Properties × Option String) :=
  if hasNul key then .error (.nulInProperty key)
  else if hasNul value then .error (.nulInProperty value)
  else .ok (ps.put key value)

def ofPairs (pairs : List (String × String)) : Except FormatError Properties :=
  pairs.foldlM (fun ps pair => (·.1) <$> ps.insert pair.1 pair.2) empty

def encodedSize (ps : Properties) : Nat :=
  ps.toList.foldr
    (fun entry size => Text.Utf8.size entry.1 + 1 + (Text.Utf8.size entry.2 + 1) + size) 0

def beq (a b : Properties) : Bool :=
  a.size == b.size && a.toList.all fun entry => b.get? entry.1 == some entry.2

instance : BEq Properties := ⟨beq⟩

end Properties

end ModuleProxy
