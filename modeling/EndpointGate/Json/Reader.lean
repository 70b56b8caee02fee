import EndpointGate.Json.Skipping

/-! Reading JSON text under a shape. Every error carries the position at which it is noticed, and the
path to the part being read. Lists and objects may be nested 127 deep, except where they are passed
over. -/

namespace EndpointGate.Json

open Text (Glyph)

def memberFor (members : List (Member × Shape)) (key : String) : Option (Member × Shape) :=
  members.find? fun m => m.1.answersTo key

def assemble (members : List (Member × Shape)) (values : Fields Json) : Json :=
  .obj (members.filterMap fun m => (values.get? m.1.name).map fun v => (m.1.name, v))

def recordWithCount (name : String) (members : List (Member × Shape)) : String :=
  "struct " ++ name ++ " with " ++ toString members.length ++ " elements"

mutual

/-- A value of a shape. `depth` is one more than the number of lists and objects that may still be
opened. -/
def readShape : Nat → Nat → Shape → Cursor → Except ReadError (Json × Cursor)
  | 0, _, _, c => .error { fault := .endInValue, pos := c.pos }
  | fuel + 1, depth, shape, c =>
    let c := c.skipSpace
    match shape with
    | .optional inner =>
      if c.peek = some 'n' then do pure (.null, ← readWord ['u', 'l', 'l'] c.next)
      else readShape fuel depth inner c
    | .choice names => readChoice fuel depth names c
    | shape =>
      if c.atEnd then .error { fault := .endInValue, pos := c.pos }
      else match lead c, shape with
        | .list, .any => readItems fuel (depth - 1) .any c
        | .list, .list item => readItems fuel (depth - 1) item c
        | .list, .record name members => readPositions fuel (depth - 1) name members c
        | .list, _ => .error { fault := .wrongType .sequence shape.wanted, pos := c.pos }
        | .object, .any => readEntries fuel (depth - 1) .any c
        | .object, .dict item => readEntries fuel (depth - 1) item c
        | .object, .record _ members => readMembers fuel (depth - 1) members c
        | .object, _ => .error { fault := .wrongType .map shape.wanted, pos := c.pos }
        | _, _ => readScalar fuel shape c

def readChoice : Nat → Nat → List String → Cursor → Except ReadError (Json × Cursor)
  | 0, _, _, c => .error { fault := .endInValue, pos := c.pos }
  | fuel + 1, depth, names, c =>
    if c.atEnd then .error { fault := .endInValue, pos := c.pos }
    else match lead c with
      | .string => readName fuel names c
      | .object =>
        if depth ≤ 1 then .error { fault := .tooDeep, pos := c.ahead }
        else do
          let c := c.next.skipSpace
          if c.atEnd then throw { fault := .endInValue, pos := c.pos }
          let (name, c) ← readName fuel names c
          let (_, c) ← readShape fuel (depth - 1) .unit (← readColon c)
          let c := c.skipSpace
          if c.atEnd then throw { fault := .endInObject, pos := c.pos }
          else if c.peek = some '\x7d' then pure (name, c.next)
          else throw { fault := .expectedValue, pos := c.pos }
      | _ => .error { fault := .expectedValue, pos := c.ahead }

def readName : Nat → List String → Cursor → Except ReadError (Json × Cursor)
  | 0, _, c => .error { fault := .endInValue, pos := c.pos }
  | fuel + 1, names, c => do
    match lead c with
    | .list => throw { fault := .wrongType .sequence "variant identifier", pos := c.pos }
    | .object => throw { fault := .wrongType .map "variant identifier", pos := c.pos }
    | _ =>
      let (value, c) ← readScalar fuel (.text "variant identifier") c
      match value with
      | .str s =>
        if names.contains s then pure (.str s, c)
        else throw { fault := .unknownVariant s names, pos := c.pos }
      | v => pure (v, c)

def readItems : Nat → Nat → Shape → Cursor → Except ReadError (Json × Cursor)
  | 0, _, _, c => .error { fault := .endInValue, pos := c.pos }
  | fuel + 1, depth, item, c =>
    if depth = 0 then .error { fault := .tooDeep, pos := c.ahead }
    else readItemsFrom fuel depth item [] c.next

def readItemsFrom : Nat → Nat → Shape → List Json → Cursor → Except ReadError (Json × Cursor)
  | 0, _, _, _, c => .error { fault := .endInValue, pos := c.pos }
  | fuel + 1, depth, item, done, c =>
    match nextItem done.isEmpty c with
    | .error e => .error e
    | .ok none => .ok (.arr done.reverse, c.skipSpace.next)
    | .ok (some c) =>
      match readShape fuel depth item c with
      | .error e => .error (e.under (.index done.length))
      | .ok (v, c) => readItemsFrom fuel depth item (v :: done) c

def readEntries : Nat → Nat → Shape → Cursor → Except ReadError (Json × Cursor)
  | 0, _, _, c => .error { fault := .endInValue, pos := c.pos }
  | fuel + 1, depth, item, c =>
    if depth = 0 then .error { fault := .tooDeep, pos := c.ahead }
    else readEntriesFrom fuel depth item true [] c.next

def readEntriesFrom :
    Nat → Nat → Shape → Bool → Fields Json → Cursor → Except ReadError (Json × Cursor)
  | 0, _, _, _, _, c => .error { fault := .endInValue, pos := c.pos }
  | fuel + 1, depth, item, first, done, c =>
    match readKey fuel first c with
    | .error e => .error e
    | .ok none => .ok (.obj done, c.skipSpace.next)
    | .ok (some (key, c)) =>
      match readColon c with
      | .error e => .error e
      | .ok c =>
        match readShape fuel depth item c with
        | .error e => .error (e.under (.key key))
        | .ok (v, c) => readEntriesFrom fuel depth item false (done.insert key v) c

def readMembers : Nat → Nat → List (Member × Shape) → Cursor → Except ReadError (Json × Cursor)
  | 0, _, _, c => .error { fault := .endInValue, pos := c.pos }
  | fuel + 1, depth, members, c =>
    if depth = 0 then .error { fault := .tooDeep, pos := c.ahead }
    else readMembersFrom fuel depth members true [] c.next

def readMembersFrom : Nat → Nat → List (Member × Shape) → Bool → Fields Json → Cursor →
    Except ReadError (Json × Cursor)
  | 0, _, _, _, _, c => .error { fault := .endInValue, pos := c.pos }
  | fuel + 1, depth, members, first, done, c =>
    match readKey fuel first c with
    | .error e => .error e
    | .ok none =>
      match members.find? fun m => m.1.required && (done.get? m.1.name).isNone with
      | some m => .error { fault := .missingField m.1.name, pos := afterMembers c }
      | none => .ok (assemble members done, c.skipSpace.next)
    | .ok (some (key, c)) =>
      match memberFor members key with
      | none =>
        match readColon c with
        | .error e => .error e
        | .ok c =>
          match skipValue fuel [] c with
          | .error e => .error (e.under (.key key))
          | .ok c => readMembersFrom fuel depth members false done c
      | some m =>
        if (done.get? m.1.name).isSome then
          .error { fault := .duplicateField m.1.name, pos := afterMembers c }
        else
          match readColon c with
          | .error e => .error e
          | .ok c =>
            match readShape fuel depth m.2 c with
            | .error e => .error (e.under (.key key))
            | .ok (v, c) => readMembersFrom fuel depth members false (done.insert m.1.name v) c

def readPositions : Nat → Nat → String → List (Member × Shape) → Cursor →
    Except ReadError (Json × Cursor)
  | 0, _, _, _, c => .error { fault := .endInValue, pos := c.pos }
  | fuel + 1, depth, name, members, c =>
    if depth = 0 then .error { fault := .tooDeep, pos := c.ahead }
    else do
      let (values, c) ← readPositionsFrom fuel depth (recordWithCount name members) 0 members [] c.next
      pure (assemble members values, ← closeList c)

def readPositionsFrom : Nat → Nat → String → Nat → List (Member × Shape) → Fields Json → Cursor →
    Except ReadError (Fields Json × Cursor)
  | 0, _, _, _, _, _, c => .error { fault := .endInValue, pos := c.pos }
  | _ + 1, _, _, _, [], done, c => .ok (done, c)
  | fuel + 1, depth, wanted, index, m :: members, done, c =>
    match nextItem (index = 0) c with
    | .error e => .error e
    | .ok none =>
      if m.1.required then
        .error { fault := .wrongLength index wanted, pos := c.skipSpace.next.pos }
      else readPositionsFrom fuel depth wanted (index + 1) members done c
    | .ok (some c) =>
      match readShape fuel depth m.2 c with
      | .error e => .error (e.under (.index index))
      | .ok (v, c) =>
        readPositionsFrom fuel depth wanted (index + 1) members (done.insert m.1.name v) c

end

/-- Levels of lists and objects, the outermost included, that a text may open, plus one. -/
def depthLimit : Nat := 128

def readStart (shape : Shape) (text : List Glyph) : Except ReadError (Json × Cursor) :=
  readShape (4 * text.length + 16) depthLimit shape (.start text)

def readGlyphs (shape : Shape) (text : List Glyph) : Except ReadError Json := do
  let (v, c) ← readStart shape text
  let c := c.skipSpace
  if c.atEnd then pure v else throw { fault := .trailingCharacters, pos := c.ahead }

def read (shape : Shape) (text : String) : Except ReadError Json :=
  readGlyphs shape (Text.glyphsOf text)

def readOctets (shape : Shape) (octets : ByteArray) : Except ReadError Json :=
  readGlyphs shape (Text.glyphs octets)

end EndpointGate.Json
