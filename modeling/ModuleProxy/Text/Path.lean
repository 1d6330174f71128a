/-!
Paths of files, as texts with `/` between the names. Two paths are the same where their components
are: repeated and final separators do not count, nor does a `.` behind the first place.
-/

namespace ModuleProxy.Text.Path

def pieces (separator : Char) : List Char → List (List Char)
  | [] => [[]]
  | c :: rest =>
    if c = separator then [] :: pieces separator rest
    else match pieces separator rest with
      | [] => [[c]]
      | first :: others => (c :: first) :: others

def isAbsolute (path : String) : Bool :=
  path.toList.head? == some '/'

def components (path : String) : List String :=
  let parts := (pieces '/' path.toList).map String.ofList
  let names := parts.filter fun part => part != "" && part != "."
  if isAbsolute path then "/" :: names
  else if parts.head? == some "." then "." :: names
  else names

def same (a b : String) : Bool :=
  components a == components b

def join (base path : String) : String :=
  if isAbsolute path then path
  else if base.isEmpty || base.toList.getLast? == some '/' then base ++ path
  else base ++ "/" ++ path

def endsInDirectory (path : String) : Bool :=
  match (pieces '/' path.toList).getLast? with
  | some last => last == [] || last == ['.'] || last == ['.', '.']
  | none => false

end ModuleProxy.Text.Path
