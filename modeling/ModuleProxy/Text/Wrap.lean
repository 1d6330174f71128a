import ModuleProxy.Text.Width

namespace ModuleProxy.Text

abbrev Cluster := String

def isDrawnWithPrevious (c : Char) : Bool :=
  columns c == 0 || isTone c

def Cluster.startsWithPicture (cluster : Cluster) : Bool :=
  cluster.toList.head?.any fun c => pictographs.contains c || hasPicture c

def addToClusters (c : Char) (rest : List Char × List Cluster) : List Char × List Cluster :=
  match rest with
  | (waiting, clusters) =>
    if !isDrawnWithPrevious c then ([], String.ofList (c :: waiting) :: clusters)
    else
      match clusters with
      | cluster :: others =>
        if c == joiner && waiting.isEmpty && Cluster.startsWithPicture cluster then
          (c :: cluster.toList, others)
        else (c :: waiting, clusters)
      | [] => (c :: waiting, clusters)

def clusters (word : String) : List Cluster :=
  match word.toList.foldr addToClusters ([], []) with
  | ([], clusters) => clusters
  | (waiting, clusters) => String.ofList waiting :: clusters

structure Wrapped where
  done : List String
  line : String
  used : Nat
  deriving DecidableEq, Repr

namespace Wrapped

def empty : Wrapped :=
  ⟨[], "", 0⟩

def nextLine (w : Wrapped) : Wrapped :=
  ⟨w.line :: w.done, "", 0⟩

def setLine (limit : Nat) (w : Wrapped) (line : String) (used : Nat) : Wrapped :=
  if limit - 2 < used then ⟨line :: w.done, "", 0⟩ else ⟨w.done, line, used⟩

def lead (w : Wrapped) : String :=
  if w.line.isEmpty then "" else w.line ++ " "

def leadColumns (w : Wrapped) : Nat :=
  if w.line.isEmpty then 0 else w.used + 1

def makeRoom (limit : Nat) (w : Wrapped) (columns : Nat) : Wrapped :=
  if w.line.isEmpty || w.leadColumns + columns ≤ limit then w
  else if columns ≤ limit || limit - w.leadColumns ≤ 2 then w.nextLine
  else w

def lines (w : Wrapped) : List String :=
  (if w.line.isEmpty then w.done else w.line :: w.done).reverse

end Wrapped

def fill : String → Nat → List Cluster → String × List Cluster
  | line, _, [] => (line, [])
  | line, room, c :: cs =>
    if width c ≤ room then fill (line ++ c) (room - width c) cs else (line, c :: cs)

theorem fill_length (line : String) (room : Nat) (cs : List Cluster) :
    (fill line room cs).2.length ≤ cs.length := by
  induction cs generalizing line room with
  | nil => simp [fill]
  | cons c cs ih =>
    rw [fill]
    split
    · exact Nat.le_trans (ih _ _) (Nat.le_succ _)
    · simp

def Wrapped.addWord (limit : Nat) (w : Wrapped) (word : List Cluster) : Wrapped :=
  let text := String.join word
  let columns := width text
  let w := w.makeRoom limit columns
  if w.leadColumns + columns ≤ limit then
    w.setLine limit (w.lead ++ text) (w.leadColumns + columns)
  else
    match word with
    | [] => w
    | c :: cs =>
      let filled := fill (w.lead ++ c) (limit - w.leadColumns - width c) cs
      (w.setLine limit filled.1 (width filled.1)).addWord limit filled.2
  termination_by word.length
  decreasing_by exact Nat.lt_succ_of_le (fill_length _ _ _)

def wrap (limit : Nat) (line : String) : List String :=
  if width line ≤ limit then [line]
  else
    let words := (line.splitOn " ").map clusters
    (words.foldl (Wrapped.addWord limit) Wrapped.empty).lines

end ModuleProxy.Text
