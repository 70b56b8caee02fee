import EndpointGate.Json.Fields
import EndpointGate.Text.Lowercase

/-! The fields that the rows of an endpoint must have. Names are compared without regard to case. -/

namespace EndpointGate

structure Descriptor where
  fields : List String
  deriving DecidableEq, Repr

namespace Descriptor

/-- Keeps the first of the names that differ in case only; `seen` holds the lower case forms met. -/
def dropRepeats (seen : List String) : List String → List String
  | [] => []
  | f :: fs =>
    let key := Text.lowercase f
    if seen.contains key then dropRepeats seen fs else f :: dropRepeats (key :: seen) fs

def ofFields (fields : List String) : Descriptor := ⟨dropRepeats [] fields⟩

def folded (d : Descriptor) : List (String × String) := d.fields.map fun f => (Text.lowercase f, f)

end Descriptor

structure Catalog where
  descriptors : Fields Descriptor
  deriving DecidableEq, Repr

namespace Catalog

def empty : Catalog := ⟨[]⟩

def insert (c : Catalog) (endpoint : String) (d : Descriptor) : Catalog :=
  ⟨c.descriptors.insert (Text.lowercase endpoint) d⟩

def get? (c : Catalog) (endpoint : String) : Option Descriptor :=
  c.descriptors.get? (Text.lowercase endpoint)

def ofConfig (schemas : Fields (List String)) : Catalog :=
  schemas.foldl (fun c p => c.insert p.1 (.ofFields p.2)) empty

def size (c : Catalog) : Nat := c.descriptors.length

end Catalog

end EndpointGate
