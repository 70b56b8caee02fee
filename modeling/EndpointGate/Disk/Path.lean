/-! Paths as they are written. Repeated separators, and `.` anywhere but in front, do not make two
paths different. -/

namespace EndpointGate.Path

inductive Component
  | root
  | current
  | parent
  | name (n : String)
  deriving DecidableEq, Repr

def piecesFrom (piece : List Char) : List Char → List (List Char)
  | [] => [piece.reverse]
  | c :: rest =>
    if c = '/' then piece.reverse :: piecesFrom [] rest else piecesFrom (c :: piece) rest

def pieces (path : List Char) : List (List Char) := piecesFrom [] path

def isIdle (piece : List Char) : Bool := piece = [] || piece = ['.']

def front : List Char → List Char × List Char
  | '/' :: rest => (['/'], rest)
  | ['.'] => (['.'], [])
  | '.' :: '/' :: rest => (['.'], '/' :: rest)
  | path => ([], path)

def componentOf (piece : List Char) : Component :=
  if piece = ['.', '.'] then .parent else .name (String.ofList piece)

def components (path : String) : List Component :=
  let (head, body) := front path.toList
  let first := if head = ['/'] then [.root] else if head = ['.'] then [.current] else []
  first ++ ((pieces body).filter (!isIdle ·)).map componentOf

def same (a b : String) : Bool := components a == components b

def join (pieces : List (List Char)) : List Char := List.intercalate ['/'] pieces

/-- Drops pieces at the end that say nothing. The pieces come last one first. -/
def dropIdle (reversed : List (List Char)) : List (List Char) := reversed.dropWhile isIdle

def parent? (path : String) : Option String :=
  let (head, body) := front path.toList
  match dropIdle (pieces body).reverse with
  | [] => if head = ['.'] then some "" else none
  | _ :: before => some (String.ofList (head ++ join (dropIdle before).reverse))

def directory? (path : String) : Option String := (parent? path).filter fun p => !p.isEmpty

end EndpointGate.Path
