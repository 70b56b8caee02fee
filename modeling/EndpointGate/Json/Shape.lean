/-! Shapes of JSON documents: what a reader wants at each place. -/

namespace EndpointGate.Json

structure Member where
  name : String
  aliases : List String := []
  required : Bool := false
  deriving DecidableEq, Repr

def Member.answersTo (m : Member) (key : String) : Bool := m.name = key || m.aliases.contains key

inductive Shape
  | any
  | unit
  | text (wanted : String)
  | natural (wanted : String) (limit : Nat)
  | optional (shape : Shape)
  | list (shape : Shape)
  | dict (shape : Shape)
  | choice (names : List String)
  | record (name : String) (members : List (Member × Shape))

def Shape.wanted : Shape → String
  | .any => "any value"
  | .unit => "unit"
  | .text wanted => wanted
  | .natural wanted _ => wanted
  | .optional shape => shape.wanted
  | .list _ => "a sequence"
  | .dict _ => "a map"
  | .choice _ => "variant identifier"
  | .record name _ => "struct " ++ name

end EndpointGate.Json
