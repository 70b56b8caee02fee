import EndpointGate.Sql.Value
import EndpointGate.Text.Blank

/-! The lexemes of SQL text. The text ends at its end or at a NUL, and a statement ends there or at a
semicolon. -/

namespace EndpointGate.Sql

inductive Token
  | word (name : String)
  /-- A name in quotes; in double quotes it may turn out to be a text. -/
  | quotedName (name : String) (double : Bool)
  | text (s : String)
  | blob (octets : ByteArray)
  | integer (n : Nat)
  | bits (n : Int)
  | real (x : Binary64)
  | parameter (name : String)
  | symbol (s : String)
  | bad (text : String)
  | semicolon
  deriving DecidableEq

structure Lexeme where
  token : Token
  offset : Nat
  deriving DecidableEq

namespace Token

def isDigit (c : Char) : Bool := '0' ≤ c && c ≤ '9'

def isHexDigit (c : Char) : Bool := isDigit c || ('a' ≤ c && c ≤ 'f') || ('A' ≤ c && c ≤ 'F')

def isLetter (c : Char) : Bool := ('a' ≤ c && c ≤ 'z') || ('A' ≤ c && c ≤ 'Z')

def continuesName (c : Char) : Bool :=
  isLetter c || isDigit c || c == '_' || c == '$' || 0x80 ≤ c.toNat

def startsName (c : Char) : Bool := isLetter c || c == '_' || 0x80 ≤ c.toNat

def isSpace (c : Char) : Bool :=
  c == ' ' || c == '\t' || c == '\n' || c == '\x0c' || c == '\x0d'

def goesOnAsSpace (c : Char) : Bool := isSpace c || c == '\x0b'

/-- What stands inside quotes, with a doubled quote for one, and how many characters that takes with
the closing quote; none if the quote is not closed. -/
def quoted (close : Char) (length : Nat) (inside : List Char) : List Char → Option (String × Nat)
  | [] => none
  | [c] => if c = close then some (String.ofList inside.reverse, length + 1) else none
  | c :: d :: rest =>
    if c = close then
      if d = close then quoted close (length + 2) (close :: inside) rest
      else some (String.ofList inside.reverse, length + 1)
    else quoted close (length + 1) (c :: inside) (d :: rest)

def hexValue (c : Char) : Nat :=
  if isDigit c then c.toNat - 48 else if 'a' ≤ c then c.toNat - 87 else c.toNat - 55

def octetsOfHex : List Char → List UInt8
  | a :: b :: rest => UInt8.ofNat (hexValue a * 16 + hexValue b) :: octetsOfHex rest
  | _ => []

def lineComment (rest : List Char) : Nat := (rest.takeWhile (· != '\n')).length

def blockComment : List Char → Nat
  | '*' :: '/' :: _ => 2
  | _ :: rest => blockComment rest + 1
  | [] => 0

def digitsValue (ds : List Char) : Nat := ds.foldl (fun n d => n * 10 + (d.toNat - 48)) 0

def exponent (cs : List Char) : Option (Int × Nat) :=
  match cs with
  | e :: rest =>
    if e = 'e' || e = 'E' then
      let (negative, signs, rest) := match rest with
        | '-' :: r => (true, 1, r)
        | '+' :: r => (false, 1, r)
        | r => (false, 0, r)
      let ds := rest.takeWhile isDigit
      if ds.isEmpty then none
      else
        let n : Int := min (digitsValue ds) 10000
        some (if negative then -n else n, 1 + signs + ds.length)
    else none
  | [] => none

def number (cs : List Char) : Token × Nat :=
  let whole := cs.takeWhile isDigit
  let afterWhole := cs.drop whole.length
  let (hasPoint, places) : Bool × List Char := match afterWhole with
    | '.' :: r => (true, r.takeWhile isDigit)
    | _ => (false, [])
  let length := whole.length + (if hasPoint then 1 + places.length else 0)
  let power := exponent (cs.drop length)
  let length := length + (power.map (·.2)).getD 0
  let extra := ((cs.drop length).takeWhile continuesName).length
  if 0 < extra then (.bad (String.ofList (cs.take (length + extra))), length + extra)
  else if !hasPoint && power.isNone then (.integer (digitsValue whole), length)
  else
    let e := (power.map (·.1)).getD 0 - places.length
    (.real (.ofDecimal (digitsValue (whole ++ places)) e), length)

def hexNumber (cs : List Char) : Token × Nat :=
  let ds := (cs.drop 2).takeWhile isHexDigit
  let length := 2 + ds.length
  if 16 < (ds.dropWhile (· == '0')).length then (.bad (String.ofList (cs.take length)), length)
  else
    let n := ds.foldl (fun n d => n * 16 + hexValue d) 0
    (.bits (if Value.isInt64 n then n else n - 18446744073709551616), length)

/-- How many characters the name of a parameter takes after its mark, given how many of them could
stand in a name so far; none if the name is broken off. -/
def parameterName (named length : Nat) : List Char → Option (Nat × Nat)
  | [] => some (named, length)
  | ':' :: ':' :: rest => parameterName named (length + 2) rest
  | c :: rest =>
    if continuesName c then parameterName (named + 1) (length + 1) rest
    else if c = '(' && 0 < named then
      let inside := rest.takeWhile fun c => !goesOnAsSpace c && c != ')'
      match rest.drop inside.length with
      | ')' :: _ => some (named, length + 2 + inside.length)
      | _ => none
    else some (named, length)

def twoCharSymbols : List (Char × Char) :=
  [('=', '='), ('<', '='), ('<', '>'), ('>', '='), ('!', '='), ('|', '|'), ('<', '<'), ('>', '>')]

def oneCharSymbols : List Char := ['(', ')', ',', '.', '=', '<', '>', '+', '-', '*', '/', '%', '&', '|', '~']

def first (c : Char) (rest : List Char) : Option Token × Nat :=
  let one := String.singleton c
  if isSpace c then (none, 1 + (rest.takeWhile goesOnAsSpace).length)
  else if c = '\uFEFF' then (none, 1)
  else if c = ';' then (some .semicolon, 1)
  else if c = '-' && rest.head? = some '-' then (none, 1 + lineComment rest)
  else if c = '/' && rest.head? = some '*' && 1 < rest.length then
    (none, 2 + blockComment (rest.drop 1))
  else if c = '\'' then
    match quoted c 1 [] rest with
    | some (s, length) => (some (.text s), length)
    | none => (some (.bad (String.ofList (c :: rest))), 1 + rest.length)
  else if c = '"' || c = '\x60' then
    match quoted c 1 [] rest with
    | some (s, length) => (some (.quotedName s (c == '"')), length)
    | none => (some (.bad (String.ofList (c :: rest))), 1 + rest.length)
  else if c = '[' then
    let inside := rest.takeWhile (· != ']')
    if inside.length < rest.length then
      (some (.quotedName (String.ofList inside) false), inside.length + 2)
    else (some (.bad (String.ofList (c :: rest))), 1 + rest.length)
  else if c = '?' then
    let ds := rest.takeWhile isDigit
    (some (.parameter (String.ofList (c :: ds))), 1 + ds.length)
  else if c = '@' || c = ':' || c = '#' || c = '$' then
    match parameterName 0 0 rest with
    | some (named, length) =>
      if named = 0 then (some (.bad one), 1 + length)
      else (some (.parameter (String.ofList (c :: rest.take length))), 1 + length)
    | none => (some (.bad one), 1 + rest.length)
  else if (c = 'x' || c = 'X') && rest.head? = some '\'' then
    let ds := (rest.drop 1).takeWhile isHexDigit
    if ds.length % 2 = 0 && (rest.drop (1 + ds.length)).head? = some '\'' then
      (some (.blob ⟨(octetsOfHex ds).toArray⟩), 3 + ds.length)
    else (some (.bad one), 3 + ((rest.drop 1).takeWhile (· != '\'')).length)
  else if c = '0' && (rest.head? = some 'x' || rest.head? = some 'X')
      && ((rest.drop 1).head?.map isHexDigit).getD false then
    let (t, length) := hexNumber (c :: rest)
    (some t, length)
  else if isDigit c || (c = '.' && (rest.head?.map isDigit).getD false) then
    let (t, length) := number (c :: rest)
    (some t, length)
  else if startsName c then
    let more := rest.takeWhile continuesName
    (some (.word (String.ofList (c :: more))), 1 + more.length)
  else match rest with
    | d :: _ =>
      if twoCharSymbols.contains (c, d) then (some (.symbol (String.ofList [c, d])), 2)
      else if oneCharSymbols.contains c then (some (.symbol one), 1)
      else (some (.bad one), 1)
    | [] => if oneCharSymbols.contains c then (some (.symbol one), 1) else (some (.bad one), 1)

/-- The lexemes of a text at `offset`. Each takes at least one character, so `fuel` is enough when it
is no less than the length. -/
def lexemesFrom : Nat → Nat → List Char → List Lexeme
  | 0, _, _ | _, _, [] => []
  | fuel + 1, offset, c :: rest =>
    let (token, length) := first c rest
    let more := lexemesFrom fuel (offset + length) (rest.drop (length - 1))
    match token with
    | some token => ⟨token, offset⟩ :: more
    | none => more

def lexemes (text : List Char) : List Lexeme :=
  let text := text.takeWhile (· != '\x00')
  lexemesFrom text.length 0 text

end Token

structure Source where
  text : List Char
  lexemes : List Lexeme
  stop : Nat
  deriving DecidableEq

namespace Source

def first (text : String) : Source :=
  let chars := text.toList.takeWhile (· != '\x00')
  let all := (Token.lexemes chars).dropWhile fun l => l.token = .semicolon
  let own := all.takeWhile fun l => l.token ≠ .semicolon
  ⟨chars, own, match all.drop own.length with
    | l :: _ => l.offset
    | [] => chars.length⟩

def remainder (text : String) : String :=
  String.ofList (text.toList.drop ((Source.first text).stop + 1))

def span (s : Source) (start stop : Nat) : String :=
  let piece := (s.text.drop start).take (stop - start)
  let piece := piece.dropWhile Token.goesOnAsSpace
  String.ofList (piece.reverse.dropWhile Token.goesOnAsSpace).reverse

end Source

end EndpointGate.Sql
