import EndpointGate.Sql.Reading.Basic

/-! Reads expressions. Operators bind by their strength, those of one strength from the left. -/

namespace EndpointGate.Sql

namespace Reading

def notStrength : Nat := 3

def operator? (t : Token) : Option (BinaryOp × Nat) :=
  match t with
  | .symbol "=" | .symbol "==" => some (.eq, 4)
  | .symbol "!=" | .symbol "<>" => some (.ne, 4)
  | .symbol "<" => some (.lt, 5)
  | .symbol "<=" => some (.le, 5)
  | .symbol ">" => some (.gt, 5)
  | .symbol ">=" => some (.ge, 5)
  | .symbol "+" => some (.add, 7)
  | .symbol "-" => some (.sub, 7)
  | .symbol "||" => some (.concat, 9)
  | t =>
    if isWord "OR" t then some (.or, 1)
    else if isWord "AND" t then some (.and, 2)
    else if isWord "IS" t then some (.is, 4)
    else none

def nullTestStrength : Nat := 4

def integerLiteral (n : Nat) : Value :=
  if Value.isInt64 n then .integer n else .real (.ofInt n)

/-- Two operands with an operator between them. A zero on either side of `AND` settles it: the other
side may then name anything. -/
def joined : BinaryOp → WrittenExpr → WrittenExpr → WrittenExpr
  | .and, .literal (.integer 0), _ | .and, _, .literal (.integer 0) => .literal (.integer 0)
  | op, a, b => .binary op a b

/-- A minus sign before an expression; before a double it belongs to the double. -/
def negated : WrittenExpr → WrittenExpr
  | .literal (.real x) => .literal (.real x.neg)
  | e => .negated e

def columnName (first : String) (double : Bool) : Reading WrittenExpr := do
  if ← acceptSymbol "." then
    let second ← name
    if ← acceptSymbol "." then
      let third ← name
      return .column ⟨some second, third, false⟩
    return .column ⟨some first, second, false⟩
  return .column ⟨none, first, double⟩

def typeName : Nat → Reading String
  | 0 => fail
  | fuel + 1 => do
    match ← name? with
    | some n =>
      let rest ← typeName fuel
      return if rest.isEmpty then n else n ++ " " ++ rest
    | none => return ""

def typeSizes : Reading Unit := do
  if ← acceptSymbol "(" then
    discard <| commaList do
      discard <| accept fun t => isSymbol "-" t || isSymbol "+" t
      match ← peek with
      | some (.integer _) | some (.bits _) | some (.real _) => skip
      | _ => fail
    expectSymbol ")"

def isRegister (parameter : String) : Bool :=
  match parameter.toList with
  | '#' :: c :: _ => Token.isDigit c
  | _ => false

mutual

def operand : Nat → Reading WrittenExpr
  | 0 => fail
  | fuel + 1 => do
    match ← peek with
    | some (.integer n) =>
      skip
      return .literal (integerLiteral n)
    | some (.bits n) =>
      skip
      return .literal (.integer n)
    | some (.real x) =>
      skip
      return .literal (.real x)
    | some (.text s) =>
      skip
      return .literal (.ofString s)
    | some (.blob b) =>
      skip
      return .literal (.blob b)
    | some (.parameter name) =>
      if isRegister name then stop (.syntaxError name)
      let slot ← slotHere
      skip
      return .parameter slot
    | some (.quotedName n double) =>
      skip
      columnName n double
    | some (.symbol "(") =>
      skip
      let e ← expression fuel 0
      expectSymbol ")"
      return e
    | some (.symbol "-") =>
      skip
      match ← peek with
      | some (.integer n) =>
        skip
        let least := -(n : Int) == Value.leastInteger
        return if least then .literal (.integer Value.leastInteger)
          else .negated (.literal (integerLiteral n))
      | some (.bits n) =>
        skip
        unless Value.isInt64 (-n) do fail
        return .negated (.literal (.integer n))
      | _ => return negated (← operand fuel)
    | some (.symbol "+") =>
      skip
      return .unchanged (← operand fuel)
    | some (.word w) => wordOperand fuel w
    | _ => fail

def wordOperand : Nat → String → Reading WrittenExpr
  | 0, _ => fail
  | fuel + 1, w => do
    let called := ((← peekSecond).map (isSymbol "(")).getD false
    skip
    if Text.upperAscii w == "NULL" then return .literal .null
    if Text.upperAscii w == "NOT" then return .not (← expression fuel notStrength)
    if Text.upperAscii w == "CAST" && called then
      skip
      let e ← expression fuel 0
      expectWord "AS"
      let t ← typeName (← enough)
      typeSizes
      expectSymbol ")"
      return .cast (.ofType t) e
    if isReserved w then fail
    if !called then return ← columnName w false
    skip
    if Text.upperAscii w == "COUNT" then
      let star ← acceptSymbol "*"
      if ← acceptSymbol ")" then return .rowCount
      if star then fail
    let e ← expression fuel 0
    unless ← acceptSymbol ")" do stop (.wrongArgumentCount w)
    if Text.upperAscii w == "TYPEOF" then return .typeOf e
    stop (.noSuchFunction w)

def expression : Nat → Nat → Reading WrittenExpr
  | 0, _ => fail
  | fuel + 1, least => do operators fuel least (← operand fuel)

def operators : Nat → Nat → WrittenExpr → Reading WrittenExpr
  | 0, _, _ => fail
  | fuel + 1, least, a => do
    let isNull : WrittenExpr := .binary .is a (.literal .null)
    let notNull : WrittenExpr := .binary .isNot a (.literal .null)
    match ← peek with
    | none => return a
    | some t =>
      if isWord "ISNULL" t && least ≤ nullTestStrength then
        skip
        operators fuel least isNull
      else if isWord "NOTNULL" t && least ≤ nullTestStrength then
        skip
        operators fuel least notNull
      else if isWord "NOT" t && least ≤ nullTestStrength then
        skip
        expectWord "NULL"
        operators fuel least notNull
      else match operator? t with
        | none => return a
        | some (op, strength) =>
          if strength < least then return a
          skip
          let op ← if op == .is then do
              if ← acceptWord "NOT" then pure .isNot else pure .is
            else pure op
          let b ← expression fuel (strength + 1)
          operators fuel least (joined op a b)

end

def expr : Reading WrittenExpr := do expression (← enough) 0

def optionalCondition : Reading (Option WrittenExpr) := do
  if ← acceptWord "WHERE" then
    return some (← expr)
  return none

end Reading

end EndpointGate.Sql
