/-! Members of an object, kept in ascending order of their keys with one value per key. -/

namespace EndpointGate

/-- A list of named values. The operations below keep the names ascending and distinct. -/
abbrev Fields (α : Type) := List (String × α)

namespace Fields

variable {α : Type}

def get? (key : String) : Fields α → Option α
  | [] => none
  | (k, v) :: rest => if k = key then some v else get? key rest

def insert (key : String) (value : α) : Fields α → Fields α
  | [] => [(key, value)]
  | (k, v) :: rest =>
    if key = k then (key, value) :: rest
    else if key < k then (key, value) :: (k, v) :: rest
    else (k, v) :: insert key value rest

def erase (key : String) : Fields α → Fields α
  | [] => []
  | (k, v) :: rest => if k = key then rest else (k, v) :: erase key rest

def keys (fields : Fields α) : List String := fields.map (·.1)

def ofList (pairs : List (String × α)) : Fields α :=
  pairs.foldl (fun fields p => insert p.1 p.2 fields) []

def Ordered (fields : Fields α) : Prop := fields.Pairwise fun a b => a.1 < b.1

@[simp] theorem get?_nil (key : String) : get? key ([] : Fields α) = none := rfl

theorem get?_insert (key other : String) (value : α) (fields : Fields α) :
    get? other (insert key value fields) = if key = other then some value else get? other fields := by
  induction fields with
  | nil => simp [insert, get?]
  | cons p rest ih =>
    obtain ⟨k, v⟩ := p
    by_cases hk : key = k
    · subst hk
      by_cases ho : key = other <;> simp [insert, get?, ho]
    · by_cases hlt : key < k
      · simp [insert, get?, hk, hlt]
      · by_cases ho : key = other
        · subst ho
          simp [insert, get?, hk, hlt, ih, Ne.symm hk]
        · simp [insert, get?, hk, hlt, ih, ho]

end Fields

end EndpointGate
