import EndpointGate.Sql.Reading.Definition

/-! Reads a statement, which its first word announces. -/

namespace EndpointGate.Sql

namespace Reading

def joinWords : List String :=
  ["CROSS", "FULL", "INDEXED", "INNER", "LEFT", "NATURAL", "OUTER", "RIGHT"]

def alias? : Reading (Option String) := do
  if ← acceptWord "AS" then
    return some (← name)
  if ← nextIs fun t => joinWords.any (isWord · t) then return none
  name?

def selection : Reading Selection := do
  if ← acceptSymbol "*" then return .all
  let start ← offset
  let e ← expr
  let text ← span start (← offset)
  return .one e (← alias?) text

def returning : Reading (List Selection) := do
  if ← acceptWord "RETURNING" then commaList selection else return []

def conflict? : Reading Conflict := do
  if ← acceptWord "OR" then
    if ← acceptWord "ABORT" then return .abort
    if ← acceptWord "FAIL" then return .fail
    if ← acceptWord "IGNORE" then return .ignore
    if ← acceptWord "REPLACE" then return .replace
    if ← acceptWord "ROLLBACK" then return .rollback
    fail
  return .abort

def unlessThere : Reading Bool := do
  if ← acceptWords "IF" "NOT" then
    expectWord "EXISTS"
    return true
  return false

def create : Reading Statement := do
  if ← acceptWord "TABLE" then
    let quiet ← unlessThere
    let table ← tableName
    expectSymbol "("
    return .createTable (← tableParts (← enough) { name := table }) quiet
  let unique ← acceptWord "UNIQUE"
  expectWord "INDEX"
  let quiet ← unlessThere
  let own ← tableName
  expectWord "ON"
  let table ← name
  let columns ← bracketed <| commaList do
    let n ← name
    discard <| accept fun t => isWord "ASC" t
    return n
  return .createIndex ⟨own, table, columns, unique⟩ quiet

def drop : Reading Statement := do
  expectWord "TABLE"
  let ifThere ← acceptWords "IF" "EXISTS"
  return .dropTable (← tableName) ifThere

def insert (conflict : Conflict) : Reading Statement := do
  expectWord "INTO"
  let table ← tableName
  if ← acceptWord "AS" then discard <| name
  let columns ← if ← nextIs (isSymbol "(") then some <$> nameList else pure none
  if ← acceptWords "DEFAULT" "VALUES" then
    return .insert conflict table (some []) [[]] (← returning)
  expectWord "VALUES"
  let rows ← commaList (bracketed (commaList expr))
  return .insert conflict table columns rows (← returning)

def update : Reading Statement := do
  let conflict ← conflict?
  let table ← tableName
  expectWord "SET"
  let changes ← commaList do
    let n ← name
    expectSymbol "="
    return (n, ← expr)
  let condition ← optionalCondition
  return .update conflict table changes condition (← returning)

def delete : Reading Statement := do
  expectWord "FROM"
  let table ← tableName
  let condition ← optionalCondition
  return .delete table condition (← returning)

def orderTerm : Reading OrderTerm := do
  let key ← expr
  if ← acceptWord "DESC" then return ⟨key, true⟩
  discard <| acceptWord "ASC"
  return ⟨key, false⟩

def select : Reading Statement := do
  discard <| acceptWord "ALL"
  let columns ← commaList selection
  let table ← if ← acceptWord "FROM" then
      let table ← tableName
      pure (some (table, ← alias?))
    else pure none
  let condition ← optionalCondition
  let order ← if ← acceptWord "ORDER" then do
      expectWord "BY"
      commaList orderTerm
    else pure []
  let mut limit := none
  let mut offset := none
  if ← acceptWord "LIMIT" then
    limit := some (← expr)
    if ← acceptWord "OFFSET" then offset := some (← expr)
    else if ← acceptSymbol "," then
      offset := limit
      limit := some (← expr)
  return .select ⟨columns, table, condition, order, limit, offset⟩

def transactionEnd : Reading Unit := do
  if ← acceptWord "TRANSACTION" then discard name?

def begin : Reading Statement := do
  let deferred ← acceptWord "DEFERRED"
  let takesLock ← if deferred then pure false
    else if ← acceptWord "IMMEDIATE" then pure true
    else acceptWord "EXCLUSIVE"
  transactionEnd
  return .begin takesLock

def statement : Reading Statement := do
  match ← peek with
  | some (.word w) =>
    skip
    match Text.upperAscii w with
    | "SELECT" => select
    | "INSERT" => insert (← conflict?)
    | "REPLACE" => insert .replace
    | "UPDATE" => update
    | "DELETE" => delete
    | "CREATE" => create
    | "DROP" => drop
    | "BEGIN" => begin
    | "COMMIT" | "END" =>
      transactionEnd
      return .commit
    | "ROLLBACK" =>
      transactionEnd
      return .rollback
    | _ => stop (.syntaxError w)
  | some _ => fail
  | none => return .empty

end Reading

def parse (text : String) : Except Failure (Statement × Parameters) := do
  let source := Source.first text
  for l in source.lexemes do
    if let .bad piece := l.token then throw (.unrecognizedToken piece)
  let parameters ← Parameters.ofSource source
  let (statement, rest) ← Reading.statement ⟨source, parameters⟩ source.lexemes
  if rest.isEmpty then return (statement, parameters)
  throw (.syntaxError (Reading.near rest))

end EndpointGate.Sql
