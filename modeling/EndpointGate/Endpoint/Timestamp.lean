import EndpointGate.Text.Blank

/-! Times as texts: a date, a blank or `T`, a time of day, perhaps a fraction of a second, and perhaps
an offset. -/

namespace EndpointGate.Timestamp

def number (most : Nat) (cs : List Char) : Option (Nat × List Char) :=
  let cs := cs.dropWhile Text.isBlank
  let ds := (cs.take most).takeWhile Char.isDigit
  if ds.isEmpty then none
  else some (ds.foldl (fun n d => n * 10 + (d.toNat - 48)) 0, cs.drop ds.length)

def mark (c : Char) : List Char → Option (List Char)
  | d :: rest => if c = d then some rest else none
  | [] => none

def isLeap (year : Int) : Bool := year % 4 == 0 && (year % 100 != 0 || year % 400 == 0)

def daysIn (year : Int) (month : Nat) : Nat :=
  if month = 2 then (if isLeap year then 29 else 28)
  else if month = 4 || month = 6 || month = 9 || month = 11 then 30
  else 31

def year (cs : List Char) : Option (Int × List Char) :=
  match cs.dropWhile Text.isBlank with
  | '-' :: rest => (number rest.length rest).map fun (n, r) => (-(n : Int), r)
  | '+' :: rest => (number rest.length rest).map fun (n, r) => ((n : Int), r)
  | rest => (number 4 rest).map fun (n, r) => ((n : Int), r)

def date (cs : List Char) : Option (List Char) := do
  let (y, cs) ← year cs
  let (m, cs) ← number 2 (← mark '-' cs)
  let (d, cs) ← number 2 (← mark '-' cs)
  if -262143 ≤ y && y ≤ 262142 && 1 ≤ m && m ≤ 12 && 1 ≤ d && d ≤ daysIn y m then some cs else none

def timeOfDay (cs : List Char) : Option (List Char) := do
  let (h, cs) ← number 2 cs
  let (m, cs) ← number 2 (← mark ':' cs)
  let (s, cs) ← number 2 (← mark ':' cs)
  if h < 24 && m < 60 && s ≤ 60 then
    match cs with
    | '.' :: rest =>
      let ds := rest.takeWhile Char.isDigit
      if ds.isEmpty then none else some (rest.drop ds.length)
    | cs => some cs
  else none

def isOffset (cs : List Char) : Bool :=
  match cs.dropWhile Text.isBlank with
  | ['Z'] | ['z'] => true
  | c :: a :: b :: rest =>
    (c == '+' || c == '-') && a.isDigit && b.isDigit &&
      match rest.dropWhile fun c => c == ':' || Text.isBlank c with
      | [] => rest.isEmpty
      | [x, y] => '0' ≤ x && x ≤ '5' && y.isDigit
      | _ => false
  | _ => false

def isValid (text : String) : Bool :=
  let separator := if (text.toList.drop 10).head? = some 'T' then 'T' else ' '
  let rest := do
    let cs ← date text.toList
    timeOfDay (← if separator = 'T' then mark 'T' cs else some cs)
  match rest with
  | none => false
  | some cs => cs.isEmpty || isOffset cs

def pad (width n : Nat) : String :=
  let ds := toString n
  String.ofList (List.replicate (width - ds.length) '0') ++ ds

/-- The year, month and day of a day counted from the start of 1970. Years are taken from March on, in
spans of four hundred. -/
def dateOfDay (day : Nat) : Nat × Nat × Nat :=
  let z := day + 719468
  let inSpan := z % 146097
  let year := (inSpan - inSpan / 1460 + inSpan / 36524 - inSpan / 146096) / 365
  let inYear := inSpan - (365 * year + year / 4 - year / 100)
  let month := (5 * inYear + 2) / 153
  let d := inYear - (153 * month + 2) / 5 + 1
  let m := if month < 10 then month + 3 else month - 9
  (year + z / 146097 * 400 + (if m ≤ 2 then 1 else 0), m, d)

def ofSeconds (secs : Nat) : String :=
  let (y, m, d) := dateOfDay (secs / 86400)
  let ofDay := secs % 86400
  pad 4 y ++ "-" ++ pad 2 m ++ "-" ++ pad 2 d ++ " " ++ pad 2 (ofDay / 3600) ++ ":"
    ++ pad 2 (ofDay / 60 % 60) ++ ":" ++ pad 2 (ofDay % 60) ++ "+00:00"

end EndpointGate.Timestamp
