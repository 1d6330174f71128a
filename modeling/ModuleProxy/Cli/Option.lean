import ModuleProxy.Text.Quoted

namespace ModuleProxy.Cli

inductive ValueKind where
  | text
  | path
  | choice (words : List String)
  | word64
  | pair
  deriving DecidableEq, Repr

inductive Refusal where
  | missing
  | invalid (reason : Option String)
  deriving DecidableEq, Repr

def readDigits (found : Nat) : List Char → Except String Nat
  | [] => .ok found
  | c :: rest =>
    if c.isDigit then
      let value := 10 * found + (c.toNat - '0'.toNat)
      if value < 0x10000000000000000 then readDigits value rest
      else .error "number too large to fit in target type"
    else .error "invalid digit found in string"

def readWord64 (text : String) : Except String Nat :=
  match text.toList with
  | [] => .error "cannot parse integer from empty string"
  | '+' :: c :: rest => readDigits 0 (c :: rest)
  | digits => readDigits 0 digits

def readPair (text : String) : Except String (String × String) :=
  let key := text.toList.takeWhile (· != '=')
  match text.toList.dropWhile (· != '=') with
  | [] => .error ("expected KEY=VALUE, got " ++ Text.quote text)
  | _ :: value =>
    if key = [] then .error "property key must not be empty"
    else .ok (String.ofList key, String.ofList value)

namespace ValueKind

def refuseUnread {α : Type} : Except String α → Except Refusal Unit
  | .ok _ => .ok ()
  | .error reason => .error (.invalid (some reason))

def check (kind : ValueKind) (value : String) : Except Refusal Unit :=
  match kind with
  | .text => .ok ()
  | .path => if value = "" then .error .missing else .ok ()
  | .choice words =>
    if value ∈ words then .ok ()
    else if value = "" then .error .missing
    else .error (.invalid none)
  | .word64 => refuseUnread (readWord64 value)
  | .pair => refuseUnread (readPair value)

end ValueKind

structure OptionSpec where
  name : String
  letter : Option Char := none
  value : Option (String × ValueKind) := none
  repeats : Bool := false
  envName : Option String := none
  bare : Bool := false
  excludes : List String := []
  deriving DecidableEq, Repr

namespace OptionSpec

def display (o : OptionSpec) : String :=
  if o.bare then "[" ++ o.name ++ "]"
  else "--" ++ o.name ++ (o.value.elim "" fun value => " <" ++ value.1 ++ ">")

def check (o : OptionSpec) (value : String) : Except Refusal Unit :=
  o.value.elim (.ok ()) fun kind => kind.2.check value

end OptionSpec

end ModuleProxy.Cli
