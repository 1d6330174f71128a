import ModuleProxy.Text.Wrap

namespace ModuleProxy.Cli

structure FieldTable where
  rows : List (String × String)
  deriving DecidableEq, Repr

namespace FieldTable

def header : String × String :=
  ("FIELD", "VALUE")

def widthLimit : Nat :=
  65535

def cellLines (cell : String) : List String :=
  cell.splitOn "\n"

def columnWidth (cells : List String) : Nat :=
  min widthLimit (((cells.flatMap cellLines).map Text.width).foldl max 0)

def repeated (text : String) (n : Nat) : String :=
  String.join (List.replicate n text)

def outerWidth (width : Nat) : Nat :=
  min widthLimit (width + 2)

def padded (width : Nat) (line : String) : String :=
  " " ++ line ++ repeated " " (width - Text.width line) ++ " "

def paddedLines (width : Nat) (cell : String) : List String :=
  ((cellLines cell).flatMap (Text.wrap width)).map (padded width)

def rule (left dash cross right : String) (widths : Nat × Nat) : String :=
  left ++ repeated dash (outerWidth widths.1) ++ cross ++ repeated dash (outerWidth widths.2) ++
    right

def rowLines (widths : Nat × Nat) (row : String × String) : List String :=
  let fields := paddedLines widths.1 row.1
  let values := paddedLines widths.2 row.2
  let blank (width missing : Nat) := List.replicate missing (repeated " " (outerWidth width))
  List.zipWith (fun field value => "│" ++ field ++ "┆" ++ value ++ "│")
    (fields ++ blank widths.1 (values.length - fields.length))
    (values ++ blank widths.2 (fields.length - values.length))

def lines (t : FieldTable) : List String :=
  let all := header :: t.rows
  let widths := (columnWidth (all.map (·.1)), columnWidth (all.map (·.2)))
  let body := (t.rows.map (rowLines widths)).intersperse [rule "├" "╌" "┼" "┤" widths]
  rule "┌" "─" "┬" "┐" widths :: rowLines widths header ++
    rule "╞" "═" "╪" "╡" widths :: body.flatten ++ [rule "└" "─" "┴" "┘" widths]

def render (t : FieldTable) : String :=
  String.intercalate "\n" t.lines

end FieldTable

end ModuleProxy.Cli
