import ModuleProxy.IoError
import ModuleProxy.Text.Path
import ModuleProxy.Text.Utf8

namespace ModuleProxy

inductive FileNode where
  | directory
  | file (content : Bytes)
  | socket (listener mode : Nat)
  deriving DecidableEq, Repr

/-- Each entry has a place, the names on the way to it from the directory of the program, which
itself has no entry. -/
structure FileTree where
  entries : List (List String × FileNode) := []
  deriving Repr

namespace FileTree

def get? (t : FileTree) (place : List String) : Option FileNode :=
  if place = [] then some .directory else t.entries.lookup place

def erase (t : FileTree) (place : List String) : FileTree :=
  ⟨t.entries.filter fun entry => entry.1 != place⟩

def set (t : FileTree) (place : List String) (node : FileNode) : FileTree :=
  ⟨(place, node) :: (t.erase place).entries⟩

def walk (t : FileTree) : (here names : List String) → Except IoError (List String)
  | here, [] => .ok here
  | here, name :: names =>
    if name = "." || name = "/" then t.walk here names
    else if name = ".." then t.walk (here.drop 1) names
    else if Text.Utf8.size name > 255 then .error .nameTooLong
    else if names = [] then .ok (name :: here)
    else
      match t.get? (name :: here).reverse with
      | some .directory => t.walk (name :: here) names
      | some _ => .error .notADirectory
      | none => .error .notFound

def resolve (t : FileTree) (path : String) : Except IoError (List String) :=
  if path.isEmpty then .error .notFound
  else if path.toList.contains '\x00' then .error .nulInPath
  else if Text.Utf8.size path ≥ 4096 then .error .nameTooLong
  else do
    let place := (← t.walk [] (Text.Path.components path)).reverse
    if Text.Path.endsInDirectory path then
      match t.get? place with
      | some .directory | none => return place
      | some _ => throw .notADirectory
    return place

def lookup (t : FileTree) (path : String) : Except IoError FileNode := do
  match t.get? (← t.resolve path) with
  | some node => return node
  | none => throw .notFound

def read (t : FileTree) (path : String) : Except IoError Bytes := do
  match ← t.lookup path with
  | .file content => return content
  | .directory => throw .isADirectory
  | .socket .. => throw (.ofOs .other "No such device or address" 6)

def openForWrite (t : FileTree) (path : String) : Except IoError (List String × Bytes) := do
  let place ← t.resolve path
  match t.get? place with
  | some (.file content) => return (place, content)
  | some .directory => throw .isADirectory
  | some (.socket ..) => throw (.ofOs .other "No such device or address" 6)
  | none =>
    if Text.Path.endsInDirectory path then throw .isADirectory
    return (place, [])

def write (t : FileTree) (path : String) (content : Bytes) : Except IoError FileTree := do
  let (place, _) ← t.openForWrite path
  return t.set place (.file content)

def append (t : FileTree) (path : String) (content : Bytes) : Except IoError FileTree := do
  let (place, old) ← t.openForWrite path
  return t.set place (.file (old ++ content))

def makeDirectory (t : FileTree) (path : String) : Except IoError FileTree := do
  let place ← t.resolve path
  match t.get? place with
  | some _ => throw .alreadyExists
  | none => return t.set place .directory

def remove (t : FileTree) (path : String) : Except IoError FileTree := do
  let place ← t.resolve path
  match t.get? place with
  | none => throw .notFound
  | some .directory => throw .isADirectory
  | some _ => return t.erase place

end FileTree

end ModuleProxy
