namespace ModuleProxy

abbrev ModuleId := UInt64

structure Registry (α : Type) where
  entries : List (ModuleId × α) := []
  nextId : ModuleId := 1

namespace Registry

variable {α : Type}

def get? (r : Registry α) (id : ModuleId) : Option α :=
  r.entries.lookup id

def contains (r : Registry α) (id : ModuleId) : Bool :=
  (r.get? id).isSome

def size (r : Registry α) : Nat :=
  r.entries.length

def erase (r : Registry α) (id : ModuleId) : Registry α :=
  { r with entries := r.entries.filter (·.1 != id) }

def insertWithId (r : Registry α) (id : ModuleId) (a : α) : Registry α :=
  { r with entries := (id, a) :: (r.erase id).entries }

def freeFrom (r : Registry α) : (steps : Nat) → ModuleId → ModuleId
  | 0, id => id
  | steps + 1, id => if r.contains id then freeFrom r steps (id + 1) else id

def freeId (r : Registry α) : ModuleId :=
  r.freeFrom r.size r.nextId

def insert (r : Registry α) (a : α) : ModuleId × Registry α :=
  let id := r.freeId
  (id, { r.insertWithId id a with nextId := id + 1 })

def ids (r : Registry α) : List ModuleId :=
  (r.entries.map (·.1)).mergeSort (· ≤ ·)

def idText (id : ModuleId) : String :=
  "module-" ++ toString id.toNat

end Registry

end ModuleProxy
