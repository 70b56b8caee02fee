import EndpointGate.Command.Basic

/-! Reading a command from the words it is given in. A verb comes first; what follows it are options,
each with one value, which is the next word or stands after `=` in the same one. The first fault found
in reading from left to right is told, and only then whether an option is missing. A value that is a
word of its own is not looked at before the next option or the end, so that a word which is out of
place between them is the first fault. -/

namespace EndpointGate

inductive Misuse
  | helpWanted
  | versionWanted
  | noVerb
  | unknownVerb (word : String)
  | unknownArgument (word : String)
  | noValue (name : String)
  | extraValue (name : String)
  | repeated (name : String)
  | invalidPort (text : String)
  | missing (name : String)
  deriving DecidableEq, Repr

def Misuse.exitStatus : Misuse → Nat
  | .helpWanted | .versionWanted => 0
  | _ => 2

inductive Verb
  | init
  | serve
  | register
  | backup
  deriving DecidableEq, Repr

namespace Verb

def name : Verb → String
  | .init => "init"
  | .serve => "serve"
  | .register => "register"
  | .backup => "backup"

def all : List Verb := [.init, .serve, .register, .backup]

def ofName? (word : String) : Option Verb := all.find? fun v => v.name = word

end Verb

inductive Setting
  | config
  | port
  | name
  | method
  | credential
  | template
  deriving DecidableEq, Repr

namespace Setting

def flag : Setting → String
  | .config => "config"
  | .port => "port"
  | .name => "name"
  | .method => "method"
  | .credential => "credential"
  | .template => "template"

end Setting

def Verb.settings : Verb → List Setting
  | .init | .backup => [.config]
  | .serve => [.config, .port]
  | .register => [.config, .name, .method, .credential, .template]

def Verb.required : Verb → List Setting
  | .register => [.name, .method, .credential, .template]
  | _ => []

inductive Word
  | separator
  | long (name : String) (value : Option String)
  | short (letter : Char)
  | plain (text : String)
  deriving DecidableEq, Repr

namespace Word

def splitValue (cs : List Char) : Word :=
  let name := cs.takeWhile (· ≠ '=')
  .long (String.ofList name) <|
    match cs.drop name.length with
    | [] => none
    | _ :: value => some (String.ofList value)

def of (word : String) : Word :=
  match word.toList with
  | ['-', '-'] => .separator
  | '-' :: '-' :: rest => splitValue rest
  | '-' :: letter :: _ => .short letter
  | _ => .plain word

end Word

namespace Arguments

def port? (text : String) : Option UInt16 :=
  let (negative, ds) := match text.toList with
    | '-' :: ds => (true, ds)
    | '+' :: ds => (false, ds)
    | ds => (false, ds)
  let n := ds.foldl (fun n d => n * 10 + (d.toNat - 48)) 0
  if ds.isEmpty || !ds.all Char.isDigit || 65536 ≤ n || (negative && n ≠ 0) then none
  else some n.toUInt16

/-- The options read, and the last one if it is yet to be looked at, with its value if that has come. -/
structure Reading where
  given : List (Setting × String) := []
  pending : Option (Setting × Option String) := none
  deriving DecidableEq, Repr

namespace Reading

def value? (r : Reading) (s : Setting) : Option String := (r.given.find? (·.1 == s)).map (·.2)

def take (r : Reading) (s : Setting) (value : String) : Except Misuse Reading :=
  if (r.value? s).isSome then .error (.repeated s.flag)
  else if s = .config && value.isEmpty then .error (.noValue s.flag)
  else if s = .port && (port? value).isNone then .error (.invalidPort value)
  else .ok { given := (s, value) :: r.given }

def settle (r : Reading) : Except Misuse Reading :=
  match r.pending with
  | none => .ok r
  | some (s, none) => .error (.noValue s.flag)
  | some (s, some value) => r.take s value

def option (r : Reading) (s : Setting) (value : Option String) : Except Misuse Reading := do
  let r ← r.settle
  match value with
  | some value => r.take s value
  | none => return { r with pending := some (s, none) }

def word (r : Reading) (v : Verb) (text : String) : Except Misuse Reading :=
  match Word.of text with
  | .separator => .ok r
  | .long "help" none => do
    let _ ← r.settle
    throw .helpWanted
  | .long "help" (some _) => .error (.extraValue "help")
  | .long name value => match v.settings.find? fun s => s.flag = name with
    | some s => r.option s value
    | none => .error (.unknownArgument text)
  | .short 'h' => do
    let _ ← r.settle
    throw .helpWanted
  | .short _ => .error (.unknownArgument text)
  | .plain value => match r.pending with
    | some (s, none) => .ok { r with pending := some (s, some value) }
    | _ => .error (.unknownArgument text)

def words (v : Verb) (r : Reading) : List String → Except Misuse Reading
  | [] => r.settle
  | text :: rest =>
    if Word.of text = .separator then
      match rest with
      | [] => r.settle
      | extra :: _ => .error (.unknownArgument extra)
    else do words v (← r.word v text) rest

def command (v : Verb) (r : Reading) : Except Misuse Command :=
  match v.required.find? fun s => (r.value? s).isNone with
  | some s => .error (.missing s.flag)
  | none =>
    let text := fun s => (r.value? s).getD ""
    let config := (r.value? .config).getD "./sqlgate.json"
    .ok <| match v with
      | .init => .init config
      | .serve => .serve config ((r.value? .port).bind port?)
      | .register =>
        .register config ⟨text .name, text .method, text .credential, text .template⟩
      | .backup => .backup config

end Reading

def help : List String → Misuse
  | [] => .helpWanted
  | [word] => if (Verb.ofName? word).isSome || word = "help" then .helpWanted else .unknownVerb word
  | word :: next :: _ =>
    .unknownVerb (if (Verb.ofName? word).isSome || word = "help" then next else word)

def misuse (word : String) (rest : List String) : Misuse :=
  match Word.of word with
  | .separator => match rest with
    | [] => .noVerb
    | next :: _ =>
      if (Verb.ofName? next).isSome || next = "help" then .unknownArgument next
      else .unknownVerb next
  | .long "help" none | .short 'h' => .helpWanted
  | .long "version" none | .short 'V' => .versionWanted
  | .long "help" (some _) => .extraValue "help"
  | .long "version" (some _) => .extraValue "version"
  | .long .. | .short _ => .unknownArgument word
  | .plain text => if text = "help" then help rest else .unknownVerb text

def read : List String → Except Misuse Command
  | [] => .error .noVerb
  | word :: rest => match Verb.ofName? word with
    | none => .error (misuse word rest)
    | some v => do (← Reading.words v {} rest).command v

end Arguments

end EndpointGate
