import EndpointGate.Sql.Parameters
import EndpointGate.Sql.Statement

/-! Readers of lexemes: words, symbols, names, and lists of what they read. A reader takes lexemes from
the front of those that are left, or refuses the statement. -/

namespace EndpointGate.Sql

structure Frame where
  source : Source
  parameters : Parameters

abbrev Reading := ReaderT Frame (StateT (List Lexeme) (Except Failure))

namespace Reading

def reserved : List String :=
  ["ADD", "ALL", "ALTER", "AND", "AS", "AUTOINCREMENT", "BETWEEN", "CASE", "CHECK", "COLLATE",
   "COMMIT", "CONSTRAINT", "CREATE", "DEFAULT", "DEFERRABLE", "DELETE", "DISTINCT", "DROP", "ELSE",
   "ESCAPE", "EXCEPT", "EXISTS", "FOREIGN", "FROM", "GROUP", "HAVING", "IN", "INDEX", "INSERT",
   "INTERSECT", "INTO", "IS", "ISNULL", "JOIN", "LIMIT", "NOT", "NOTHING", "NOTNULL", "NULL", "ON",
   "OR", "ORDER", "PRIMARY", "REFERENCES", "RETURNING", "SELECT", "SET", "TABLE", "THEN", "TO",
   "TRANSACTION", "UNION", "UNIQUE", "UPDATE", "USING", "VALUES", "WHEN", "WHERE"]

def isReserved (word : String) : Bool := reserved.contains (Text.upperAscii word)

def near (l : List Lexeme) : String :=
  match l with
  | ⟨.word w, _⟩ :: _ => w
  | ⟨.symbol s, _⟩ :: _ => s
  | _ => ""

def fail {α : Type} : Reading α := fun _ l => .error (.syntaxError (near l))

def stop {α : Type} (f : Failure) : Reading α := fun _ _ => .error f

def peek : Reading (Option Token) := fun _ l => .ok (l.head?.map Lexeme.token, l)

def peekSecond : Reading (Option Token) := fun _ l => .ok ((l.drop 1).head?.map Lexeme.token, l)

def skip : Reading Unit := fun _ l => .ok ((), l.drop 1)

def offset : Reading Nat := fun f l =>
  .ok ((l.head?.map Lexeme.offset).getD f.source.stop, l)

def slotHere : Reading Nat := fun f l =>
  .ok (f.parameters.slotAt ((l.head?.map Lexeme.offset).getD 0), l)

def isWord (word : String) : Token → Bool
  | .word w => Text.upperAscii w == word
  | _ => false

def isSymbol (s : String) : Token → Bool
  | .symbol t => t == s
  | _ => false

def nextIs (test : Token → Bool) : Reading Bool := do
  return ((← peek).map test).getD false

def accept (test : Token → Bool) : Reading Bool := do
  if ← nextIs test then
    skip
    return true
  return false

def acceptWord (word : String) : Reading Bool := accept (isWord word)

def acceptSymbol (s : String) : Reading Bool := accept (isSymbol s)

def expectWord (word : String) : Reading Unit := do
  unless ← acceptWord word do fail

def expectSymbol (s : String) : Reading Unit := do
  unless ← acceptSymbol s do fail

def acceptWords (first second : String) : Reading Bool := do
  if (← nextIs (isWord first)) && ((← peekSecond).map (isWord second)).getD false then
    skip
    skip
    return true
  return false

def name? : Reading (Option String) := do
  match ← peek with
  | some (.word w) =>
    if isReserved w then return none
    skip
    return some w
  | some (.quotedName n _) | some (.text n) =>
    skip
    return some n
  | _ => return none

def name : Reading String := do
  match ← name? with
  | some n => return n
  | none => fail

def tableName : Reading String := do
  let n ← name
  if ← acceptSymbol "." then
    let own ← name
    if sameName n "main" then return own
    stop (.noSuchTable (n ++ "." ++ own))
  return n

def listOf {α : Type} (item : Reading α) : Nat → Reading (List α)
  | 0 => fail
  | fuel + 1 => do
    let x ← item
    if ← acceptSymbol "," then
      return x :: (← listOf item fuel)
    return [x]

/-- As many steps as any list or expression here can take. -/
def enough : Reading Nat := fun _ l => .ok (2 * l.length + 2, l)

def commaList {α : Type} (item : Reading α) : Reading (List α) := do listOf item (← enough)

def bracketed {α : Type} (inside : Reading α) : Reading α := do
  expectSymbol "("
  let x ← inside
  expectSymbol ")"
  return x

def nameList : Reading (List String) := bracketed (commaList name)

def span (start stop : Nat) : Reading String := fun f l => .ok (f.source.span start stop, l)

end Reading

end EndpointGate.Sql
