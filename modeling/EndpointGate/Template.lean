import EndpointGate.Json.Basic

/-! SQL templates. `$name$` stands for the field `name` of a row; binding puts a parameter marker there
and lists the value beside it, so that no value ever becomes part of the statement's text. -/

namespace EndpointGate

inductive Segment
  | literal (text : List Char)
  | placeholder (name : List Char)
  deriving DecidableEq, Repr

namespace Segment

def placeholder? : Segment → Option (List Char)
  | .placeholder name => some name
  | .literal _ => none

def literal? (text : List Char) : List Segment := if text.isEmpty then [] else [.literal text]

end Segment

structure Template where
  source : String
  deriving DecidableEq, Repr

namespace Template

/-- Cuts a template into segments. `before` is the literal text since the last placeholder and `name`
the name under way after an opening `$`, both with the last character first. A `$` that is never
closed is literal text. -/
def segmentsFrom (before : List Char) : Option (List Char) → List Char → List Segment
  | none, [] => Segment.literal? before.reverse
  | some name, [] => Segment.literal? (before.reverse ++ '$' :: name.reverse)
  | none, c :: cs =>
    if c = '$' then segmentsFrom before (some []) cs else segmentsFrom (c :: before) none cs
  | some name, c :: cs =>
    if c = '$' then
      Segment.literal? before.reverse ++ .placeholder name.reverse :: segmentsFrom [] none cs
    else segmentsFrom before (some (c :: name)) cs

def plan (t : Template) : List Segment := segmentsFrom [] none t.source.toList

def marker (i : Nat) : String := "@p" ++ toString i

end Template

structure BoundStatement where
  sql : String
  values : List Json
  deriving DecidableEq, Repr

namespace BoundStatement

def parameterCount (s : BoundStatement) : Nat := s.values.length

def parameters (s : BoundStatement) : List (String × Json) :=
  s.values.zipIdx.map fun p => (Template.marker p.2, p.1)

end BoundStatement

abbrev Plan := List Segment

namespace Plan

def names (plan : Plan) : List String := plan.filterMap fun s => s.placeholder?.map String.ofList

def occurrences (plan : Plan) : Nat := plan.countP fun s => s.placeholder?.isSome

def valueFor (row : Row) (name : String) : Json := (row.get? name).getD (.str "")

def textFrom (i : Nat) : Plan → List Char
  | [] => []
  | .literal text :: rest => text ++ textFrom i rest
  | .placeholder _ :: rest => (Template.marker i).toList ++ textFrom (i + 1) rest

def bind (plan : Plan) (row : Row) : BoundStatement :=
  ⟨String.ofList (textFrom 0 plan), plan.names.map (valueFor row)⟩

end Plan

def Template.parse (t : Template) (row : Row) : BoundStatement := Plan.bind t.plan row

structure Batch where
  rows : List Row
  nonempty : rows ≠ []

namespace Batch

def ofRows? (rows : List Row) : Option Batch :=
  if h : rows = [] then none else some ⟨rows, h⟩

def single (row : Row) : Batch := ⟨[row], by simp⟩

def size (b : Batch) : Nat := b.rows.length

end Batch

end EndpointGate
