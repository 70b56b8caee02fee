import EndpointGate.Text.Blank

/-! Media types, as far as it takes to tell whether a body is said to be JSON. -/

namespace EndpointGate.Http

def isTokenChar (c : Char) : Bool :=
  c.isAlphanum || "!#$%&'*+-.^_|~".toList.contains c || c == '\x60'

def isQuotedChar (c : Char) : Bool := c == '\t' || (' ' ≤ c && c != '"' && c != '\x7f')

def areParameters : Nat → List Char → Bool
  | 0, _ => false
  | fuel + 1, cs =>
    let cs := match cs with
      | ' ' :: rest => rest
      | cs => cs
    let name := cs.takeWhile isTokenChar
    match name, cs.drop name.length with
    | _ :: _, '=' :: '"' :: rest =>
      let inside := rest.takeWhile isQuotedChar
      match rest.drop inside.length with
      | '"' :: rest =>
        match rest.dropWhile (· == ' ') with
        | [] => true
        | ';' :: rest => rest.isEmpty || areParameters fuel rest
        | _ => false
      | _ => false
    | _ :: _, '=' :: rest =>
      let value := rest.takeWhile isTokenChar
      match rest.drop value.length with
      | [] => true
      | ';' :: rest => !value.isEmpty && (rest.isEmpty || areParameters fuel rest)
      | _ => false
    | _, _ => false

def mediaType? (text : String) : Option (String × String) :=
  let cs := text.toList
  let type := cs.takeWhile isTokenChar
  match type, cs.drop type.length with
  | _ :: _, '/' :: rest =>
    let subtype := rest.takeWhile isTokenChar
    let found := some (Text.lowerAscii (String.ofList type), Text.lowerAscii (String.ofList subtype))
    match subtype, rest.drop subtype.length with
    | '+' :: _, _ | [], _ => none
    | _, [] => found
    | _, ';' :: rest | _, ' ' :: rest => if areParameters (rest.length + 1) rest then found else none
    | _, _ => none
  | _, _ => none

def isJsonType (text : String) : Bool :=
  match mediaType? text with
  | none => false
  | some (type, subtype) =>
    let reversed := subtype.toList.reverse
    let ending := (reversed.takeWhile (· ≠ '+')).reverse
    let start := ((reversed.drop (ending.length + 1)).reverse)
    type == "application" &&
      (ending == "json".toList || (reversed.contains '+' && start == "json".toList))

end EndpointGate.Http
