import FramedExchange.Clock
import FramedExchange.Dispatcher
import FramedExchange.Text.Digits

/-!
# The command line

Arguments are read from left to right. An option has a long name, and some have a letter; its
value follows as the next argument or is attached: `--name value`, `--name=value`, `-nvalue`,
`-n=value`. A switch has no value. There are no arguments but options and switches, and each is
given at most once.

An option whose value is to follow is settled, that is its value is checked and kept, when the next
option or switch has been recognised or the arguments end. So an argument that is not recognised is
reported before a fault of the option in front of it.
-/

namespace FramedExchange

/-- What the command line sets. -/
structure CommandLine where
  /-- The path of the settings file. -/
  file? : Option String
  listen? : Option String
  convention? : Option Convention
  readTimeout? : Option Time
  writeTimeout? : Option Time
  idleTimeout? : Option Time
  /-- Whether a connection may carry only one request. -/
  noKeepAlive : Bool
  maxConnections? : Option Nat
  logLevel? : Option String
deriving DecidableEq, Repr

namespace CommandLine

/-- A command line without arguments. -/
def empty : CommandLine := ⟨none, none, none, none, none, none, false, none, none⟩

/-! ### Names -/

/-- What takes a value. -/
inductive Parameter
  | file
  | listen
  | convention
  | readTimeout
  | writeTimeout
  | idleTimeout
  | maxConnections
  | logLevel
deriving DecidableEq, Repr

/-- What takes no value. -/
inductive Switch
  | noKeepAlive
  | help
  | version
deriving DecidableEq, Repr

/-- What may be given on the command line. -/
inductive Item
  | parameter (p : Parameter)
  | switch (s : Switch)
deriving DecidableEq, Repr

/-- The long name, and the letter if there is one, of all that may be given. -/
def names : List (Item × String × Option Char) :=
  [(.parameter .file, "config", some 'c'),
    (.parameter .listen, "listen", some 'l'),
    (.parameter .convention, "convention", none),
    (.parameter .readTimeout, "read-timeout-ms", none),
    (.parameter .writeTimeout, "write-timeout-ms", none),
    (.parameter .idleTimeout, "idle-timeout-ms", none),
    (.switch .noKeepAlive, "no-keep-alive", none),
    (.parameter .maxConnections, "max-connections", some 'm'),
    (.parameter .logLevel, "log-level", none),
    (.switch .help, "help", some 'h'),
    (.switch .version, "version", some 'V')]

/-- What a long name stands for. Names are not abbreviated. -/
def ofName? (name : String) : Option Item :=
  (names.find? fun entry ↦ entry.2.1 == name).map Prod.fst

/-- What a letter stands for. -/
def ofLetter? (letter : Char) : Option Item :=
  (names.find? fun entry ↦ entry.2.2 == some letter).map Prod.fst

/-- The long name of what may be given. -/
def Item.name (item : Item) : String :=
  match names.find? fun entry ↦ entry.1 == item with
  | some entry => "--" ++ entry.2.1
  | none => ""

/-! ### Values -/

/-- Why the reading of a command line stops. -/
inductive Stop
  /-- The command line asks for help. -/
  | help
  /-- The command line asks for the version. -/
  | version
  /-- An argument is none of the known ones. -/
  | unknownArgument (argument : String)
  | missingValue (p : Parameter)
  /-- The value is none of those that may be chosen. -/
  | invalidChoice (p : Parameter) (value : String)
  | invalidNumber (p : Parameter) (value : String)
  /-- Something is given twice. -/
  | repeated (item : Item)
  /-- A switch has a value. -/
  | unexpectedValue (s : Switch)
deriving DecidableEq, Repr

/-- The wording of a stop. -/
def Stop.message : Stop → String
  | help => "help is asked for"
  | version => "the version is asked for"
  | unknownArgument argument => "unexpected argument '" ++ argument ++ "'"
  | missingValue p => "a value is required for '" ++ (Item.parameter p).name ++ "'"
  | invalidChoice p value =>
    "invalid value '" ++ value ++ "' for '" ++ (Item.parameter p).name ++ "'"
  | invalidNumber p value =>
    "invalid number '" ++ value ++ "' for '" ++ (Item.parameter p).name ++ "'"
  | repeated item => "'" ++ item.name ++ "' cannot be used twice"
  | unexpectedValue s => "no value is allowed for '" ++ (Item.switch s).name ++ "'"

/-- The greatest number that may be given. -/
def greatest : Nat := 0xffffffffffffffff

/-- Read a number. -/
def number (p : Parameter) (value : String) : Except Stop Nat :=
  match Digits.unsigned? greatest value with
  | some n => .ok n
  | none => .error (.invalidNumber p value)

/-- The convention of a name. -/
def conventionOf? (name : String) : Option Convention :=
  [Convention.path, .code].find? fun convention ↦ convention.name == name

/-- Whether a parameter has its value. -/
def has (line : CommandLine) : Parameter → Bool
  | .file => line.file?.isSome
  | .listen => line.listen?.isSome
  | .convention => line.convention?.isSome
  | .readTimeout => line.readTimeout?.isSome
  | .writeTimeout => line.writeTimeout?.isSome
  | .idleTimeout => line.idleTimeout?.isSome
  | .maxConnections => line.maxConnections?.isSome
  | .logLevel => line.logLevel?.isSome

/-- Give a parameter its value. -/
def set (p : Parameter) (value : String) (line : CommandLine) : Except Stop CommandLine :=
  if line.has p then .error (.repeated (.parameter p))
  else match p with
    | .file =>
      if value.isEmpty then .error (.missingValue .file) else .ok { line with file? := some value }
    | .listen => .ok { line with listen? := some value }
    | .convention =>
      match conventionOf? value with
      | some convention => .ok { line with convention? := some convention }
      | none => .error (.invalidChoice .convention value)
    | .readTimeout => do return { line with readTimeout? := some (← number .readTimeout value) }
    | .writeTimeout => do return { line with writeTimeout? := some (← number .writeTimeout value) }
    | .idleTimeout => do return { line with idleTimeout? := some (← number .idleTimeout value) }
    | .maxConnections => do
      return { line with maxConnections? := some (← number .maxConnections value) }
    | .logLevel => .ok { line with logLevel? := some value }

/-- Turn a switch on. -/
def turnOn (s : Switch) (line : CommandLine) : Except Stop CommandLine :=
  match s with
  | .noKeepAlive =>
    if line.noKeepAlive then .error (.repeated (.switch .noKeepAlive))
    else .ok { line with noKeepAlive := true }
  | .help => .error .help
  | .version => .error .version

/-! ### Arguments -/

/-- An argument by its form. -/
inductive Argument
  /-- Two hyphens and nothing else: only plain arguments follow. -/
  | divider
  /-- A long name, with what follows an equals sign. -/
  | long (name : String) (value? : Option String)
  /-- Letters after one hyphen. -/
  | letters (letters : List Char)
  | plain (text : String)
deriving DecidableEq, Repr

/-- The form of an argument. A hyphen alone is plain. -/
def Argument.ofString (text : String) : Argument :=
  match text.toList with
  | ['-', '-'] => .divider
  | '-' :: '-' :: rest =>
    let name := String.ofList (rest.takeWhile (· != '='))
    match rest.dropWhile (· != '=') with
    | [] => .long name none
    | _ :: value => .long name (some (String.ofList value))
  | '-' :: letter :: rest => .letters (letter :: rest)
  | _ => .plain text

/-- A command line that is being read. -/
structure Reading where
  line : CommandLine
  /-- The last parameter, if its value was to follow, with that value if it did. -/
  pending? : Option (Parameter × Option String)
deriving DecidableEq, Repr

namespace Reading

/-- Settle the last parameter. -/
def settle (reading : Reading) : Except Stop CommandLine :=
  match reading.pending? with
  | none => .ok reading.line
  | some (p, none) => .error (.missingValue p)
  | some (p, some value) => reading.line.set p value

/-- A parameter with the value that is attached to it, if one is. -/
def parameter (p : Parameter) (value? : Option String) (reading : Reading) :
    Except Stop Reading := do
  let line ← reading.settle
  match value? with
  | some value => return ⟨← line.set p value, none⟩
  | none => return ⟨line, some (p, none)⟩

/-- A switch. -/
def switch (s : Switch) (reading : Reading) : Except Stop Reading := do
  let line ← reading.settle
  return ⟨← line.turnOn s, none⟩

/-- Letters after one hyphen. What follows the letter of a parameter is its value. -/
def letters (reading : Reading) : List Char → Except Stop Reading
  | [] => .ok reading
  | letter :: rest =>
    match ofLetter? letter with
    | none => .error (.unknownArgument (String.ofList ['-', letter]))
    | some (.switch s) => do letters (← reading.switch s) rest
    | some (.parameter p) =>
      match rest with
      | [] => reading.parameter p none
      | '=' :: value => reading.parameter p (some (String.ofList value))
      | value => reading.parameter p (some (String.ofList value))

/-- Read one argument before the divider. -/
def argument (text : String) (reading : Reading) : Except Stop Reading :=
  match Argument.ofString text with
  | .long name value? =>
    match ofName? name, value? with
    | none, _ => .error (.unknownArgument ("--" ++ name))
    | some (.parameter p), _ => reading.parameter p value?
    | some (.switch s), none => reading.switch s
    | some (.switch s), some _ => .error (.unexpectedValue s)
  | .letters cs => reading.letters cs
  | _ =>
    match reading.pending? with
    | some (p, none) => .ok { reading with pending? := some (p, some text) }
    | _ => .error (.unknownArgument text)

/-- Read all arguments. Nothing may follow a divider. -/
def arguments (reading : Reading) : List String → Except Stop CommandLine
  | [] => reading.settle
  | text :: rest =>
    if Argument.ofString text = .divider then
      match rest with
      | [] => reading.settle
      | extra :: _ => .error (.unknownArgument extra)
    else do arguments (← reading.argument text) rest

end Reading

/-- Read a command line. -/
def read (arguments : List String) : Except Stop CommandLine :=
  Reading.arguments ⟨empty, none⟩ arguments

end CommandLine

end FramedExchange
