import EndpointGate.Sql.Reading.Expression

/-! Reads what defines a table: its columns with their rules, and rules of the whole. -/

namespace EndpointGate.Sql

namespace Reading

def check : Reading (WrittenExpr × String) := bracketed do
  let start ← offset
  let e ← expr
  return (e, ← span start (← offset))

def target : Reading Target := do
  let table ← name
  if ← nextIs (isSymbol "(") then
    return ⟨table, ← nameList⟩
  return ⟨table, []⟩

def momentWords : List String := ["CURRENT_DATE", "CURRENT_TIME", "CURRENT_TIMESTAMP"]

def defaultValue : Reading WrittenExpr := do
  if ← nextIs (isSymbol "(") then bracketed expr
  else
    match ← peek with
    | some (.word w) =>
      skip
      if Text.upperAscii w == "NULL" then return .literal .null
      if Text.upperAscii w == "TRUE" then return .literal (.integer 1)
      if Text.upperAscii w == "FALSE" then return .literal (.integer 0)
      if isReserved w || momentWords.contains (Text.upperAscii w) then fail
      return .literal (.ofString w)
    | _ => operand (← enough)

def columnRules : Nat → ColumnDef → Reading ColumnDef
  | 0, _ => fail
  | fuel + 1, c => do
    if ← acceptWord "CONSTRAINT" then
      discard <| name
      columnRules fuel c
    else if ← acceptWords "NOT" "NULL" then columnRules fuel { c with notNull := true }
    else if ← acceptWord "NULL" then columnRules fuel c
    else if ← acceptWords "PRIMARY" "KEY" then
      discard <| accept fun t => isWord "ASC" t
      let autoincrement ← acceptWord "AUTOINCREMENT"
      columnRules fuel { c with primaryKey := true, autoincrement }
    else if ← acceptWord "UNIQUE" then columnRules fuel { c with unique := true }
    else if ← acceptWord "CHECK" then
      let rule ← check
      columnRules fuel { c with checks := c.checks ++ [rule] }
    else if ← acceptWord "DEFAULT" then
      let e ← defaultValue
      columnRules fuel { c with default := some e }
    else if ← acceptWord "REFERENCES" then
      let t ← target
      columnRules fuel { c with references := c.references ++ [t] }
    else return c

def columnDef : Reading ColumnDef := do
  let name ← name
  let typeName ← typeName (← enough)
  typeSizes
  columnRules (← enough) { name, typeName }

def tableRule? (d : TableDef) : Reading (Option TableDef) := do
  if ← acceptWord "CONSTRAINT" then discard <| name
  if ← acceptWords "PRIMARY" "KEY" then
    let names ← nameList
    return some { d with primaryKey := names }
  if ← acceptWord "UNIQUE" then
    let names ← nameList
    return some { d with uniques := d.uniques ++ [names] }
  if ← acceptWord "CHECK" then
    let rule ← check
    return some { d with checks := d.checks ++ [rule] }
  if ← acceptWords "FOREIGN" "KEY" then
    let names ← nameList
    expectWord "REFERENCES"
    let t ← target
    return some { d with foreignKeys := d.foreignKeys ++ [(names, t)] }
  return none

def tableParts : Nat → TableDef → Reading TableDef
  | 0, _ => fail
  | fuel + 1, d => do
    match ← tableRule? d with
    | some d =>
      discard <| acceptSymbol ","
      if ← acceptSymbol ")" then return d
      tableParts fuel d
    | none =>
      let c ← columnDef
      let d := { d with columns := d.columns ++ [c] }
      if ← acceptSymbol "," then tableParts fuel d
      else if ← acceptSymbol ")" then return d
      else tableParts fuel d

end Reading

end EndpointGate.Sql
