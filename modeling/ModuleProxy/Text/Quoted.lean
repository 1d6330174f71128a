import ModuleProxy.Text.Printable

namespace ModuleProxy.Text

def hexDigits (n : Nat) : String :=
  String.ofList (Nat.toDigits 16 n)

namespace Quoted

def escape (c : Char) : String :=
  match c with
  | '\x00' => "\\0"
  | '\t' => "\\t"
  | '\r' => "\\r"
  | '\n' => "\\n"
  | '"' => "\\\""
  | '\\' => "\\\\"
  | _ => if isShown c then c.toString else "\\u\x7b" ++ hexDigits c.toNat ++ "\x7d"

end Quoted

def quote (text : String) : String :=
  "\"" ++ String.join (text.toList.map Quoted.escape) ++ "\""

end ModuleProxy.Text
