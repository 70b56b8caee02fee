import EndpointGate.Log.Severity
import EndpointGate.Text.Quoted

/-! Log lines: one JSON object each, with the event, the severity and then the other fields in the
order of their names. All controls are escaped, so a line has no line end but its own. -/

namespace EndpointGate.Log

abbrev Details := List (String × String)

def isControl (c : Char) : Bool := c.toNat < 0x20 || (0x7F ≤ c.toNat && c.toNat < 0xA0)

def escapeChar (c : Char) : List Char :=
  if c = '"' then ['\\', '"']
  else if c = '\\' then ['\\', '\\']
  else if c = '\n' then ['\\', 'n']
  else if c = '\r' then ['\\', 'r']
  else if c = '\t' then ['\\', 't']
  else if isControl c then
    ['\\', 'u', '0', '0', Text.hexDigit (c.toNat / 16), Text.hexDigit (c.toNat % 16)]
  else [c]

def quoted (s : String) : List Char := '"' :: s.toList.flatMap escapeChar ++ ['"']

def sorted (details : Details) : Details := details.mergeSort fun a b => a.1 ≤ b.1

def memberText (p : String × String) : List Char := ',' :: quoted p.1 ++ ':' :: quoted p.2

def lineChars (severity : Severity) (event : String) (details : Details) : List Char :=
  "\x7b\"event\":".toList ++ quoted event ++ ",\"severity\":\"".toList ++ severity.name.toList
    ++ '"' :: (sorted details).flatMap memberText ++ ['\x7d']

def render (severity : Severity) (event : String) (details : Details) : String :=
  String.ofList (lineChars severity event details ++ ['\n'])

end EndpointGate.Log
