import EventLog.Host

/-! The command line: general information, a demonstration, and serving the console. -/
namespace EventLog.CommandLine

/-- An option that takes a value, `-c 5`, `-c5`, `--capacity 5` or `--capacity=5`. -/
structure Flag where
  name : String
  short : Char
  long : String
  default : String

def demoFlags : List Flag := [⟨"capacity", 'c', "capacity", "10"⟩, ⟨"count", 'n', "count", "12"⟩]

def serveFlags : List Flag :=
  [⟨"bind", 'b', "bind", "127.0.0.1"⟩, ⟨"port", 'p', "port", "50005"⟩,
    ⟨"capacity", 'c', "capacity", "32"⟩, ⟨"threads", 't', "threads", "2"⟩,
    ⟨"interval", 'i', "interval-ms", "500"⟩]

/-- A value that is attached to its option may follow equals signs. -/
def attached (cs : List Char) : String := String.ofList (cs.dropWhile (· = '='))

/-- The option that an argument names, with its value when it is attached. A long name may follow any
number of dashes from two on. -/
def flag? (flags : List Flag) (argument : String) : Option (Flag × Option String) :=
  match argument.toList with
  | '-' :: '-' :: cs =>
    let cs := cs.dropWhile (· = '-')
    let name := cs.takeWhile (· ≠ '=')
    let rest := cs.dropWhile (· ≠ '=')
    (flags.find? fun flag => flag.long.toList = name).map fun flag =>
      (flag, if rest.isEmpty then none else some (attached rest))
  | '-' :: c :: cs =>
    (flags.find? fun flag => flag.short = c).map fun flag =>
      (flag, if cs.isEmpty then none else some (attached cs))
  | _ => none

/-- Whether an argument is no value: it starts with a dash and is more than that. -/
def looksLikeFlag (argument : String) : Bool :=
  match argument.toList with
  | '-' :: _ :: _ => true
  | _ => false

/-- Whether an argument asks for the version; what is attached to it does not matter. -/
def asksVersion (argument : String) : Bool :=
  match argument.toList with
  | '-' :: '-' :: cs => (cs.dropWhile (· = '-')).takeWhile (· ≠ '=') = "version".toList
  | '-' :: c :: _ => c = 'V'
  | _ => false

/-- Ends the options. Nothing but itself may follow. -/
def terminator : String := "--"

/-- Why the options of a command are not carried out. -/
inductive Stop where
  | misplaced (argument : String)
  | version
  deriving DecidableEq, Repr

/-- The options on the command line in order, each with its value if it has one. An option that still
waits for its value, `pending`, stays without one at the end and before anything that is no value.
Reading stops at the first argument that has no place or asks for the version. -/
def given (flags : List Flag) (pending : Option Flag) :
    List String → Except Stop (List (Flag × Option String))
  | [] => .ok (without pending)
  | argument :: rest =>
    if argument = terminator then
      match rest.find? (· ≠ terminator) with
      | some argument => .error (.misplaced argument)
      | none => .ok (without pending)
    else if asksVersion argument then .error .version
    else if looksLikeFlag argument then
      match flag? flags argument with
      | none => .error (.misplaced argument)
      | some (flag, some value) =>
        (given flags none rest).map (without pending ++ (flag, some value) :: ·)
      | some (flag, none) => (given flags flag rest).map (without pending ++ ·)
    else
      match pending with
      | some flag => (given flags none rest).map ((flag, some argument) :: ·)
      | none => .error (.misplaced argument)
where
  without (pending : Option Flag) : List (Flag × Option String) := pending.toList.map (·, none)

/-- Every option with its value, which is the default where none was given. No option may come
twice. -/
def settled (flags : List Flag) (arguments : List String) : Except Stop (String → String) := do
  let given ← given flags none arguments
  let ofFlag (flag : Flag) := (given.filter fun entry => entry.1.name = flag.name).map Prod.snd
  match flags.find? fun flag => 1 < (ofFlag flag).length with
  | some flag => throw (.misplaced ("--" ++ flag.long))
  | none =>
    return fun name =>
      match flags.find? fun flag => flag.name = name with
      | some flag => ((ofFlag flag).head?.join).getD flag.default
      | none => ""

def invalid (parameter : String) : Error := .invalidParameter parameter "Invalid value"

/-- The value of an option as a number below a bound. -/
def number (value : String → String) (name : String) (bound : Nat) : Except Error Nat :=
  match Numeral.read? 10 bound (value name).toList with
  | some n => .ok n
  | none => .error (invalid name)

/-- How a run of the program ends, or the console that it is to serve. -/
inductive Reaction where
  | exit (code : UInt32) (out : Bytes) (err : String)
  | serve (settings : Settings) (store : Store)

def succeed (text : String) : Reaction := .exit 0 (Utf8.encode text) ""

def fail (error : Error) : Reaction := .exit 1 [] ("Error: " ++ error.inspect ++ "\n")

def misuse (argument : String) : Reaction :=
  .exit 1 [] ("error: unexpected argument " ++ Quoted.encode argument ++ "\n")

def hint : String := "Use --help for usage information\n"

def info : String :=
  let config : Config := {}
  "ringlog v" ++ Limits.version ++ "\n" ++
    "In-process ring buffer event log\n\nLimits:\n" ++
    "  Buffers per store     : " ++ Numeral.decimal config.maxBuffers ++ "\n" ++
    "  Events per buffer     : " ++ Numeral.decimal config.maxEvents ++ "\n" ++
    "  Message bytes         : " ++ Numeral.decimal (Limits.messageCapacity - 1) ++ "\n" ++
    "  Renderer entries      : " ++ Numeral.decimal config.rendererCapacity ++ "\n" ++
    "  Default console port  : " ++ Numeral.decimal Limits.consolePort ++ "\n"

/-- The demonstration's own renderer: the number of bytes and their sum. -/
def checksum (data : Bytes) : Drawing :=
  let sum := data.foldl (fun sum b => sum + b.toUInt32) 0
  { pieces := [Utf8.encode ("\t" ++ Numeral.decimal data.length ++ " bytes, checksum 0x" ++
      Numeral.paddedHex 8 sum.toNat)] }

def demoBytes : Bytes := (List.range 16).map UInt8.ofNat

/-- The demonstration: plain messages, then an event of a new type and a hex dump, one level down. -/
def demo (capacity count : Nat) (now : Instant) (memory : Memory) : List Action :=
  let log (event : Event) : Action := .log .default event now
  [.init capacity memory, .setName "demo"] ++
    (List.range count).map (fun i => log (.ofMessage ("m" ++ Numeral.decimal i))) ++
    [.register (.function "checksum" checksum), .enter,
      log
        { message := "custom payload", function := some "demo", line := some 192
          payload := some { type := .firstDynamic, data := demoBytes } },
      log (.ofHex "hex payload" demoBytes), .leave, .dumpAll true true none, .cleanup]

/-- Performs actions up to the first that fails. What they wrote is lost if one does. -/
def play (host : Host) (worker : Worker) : List Action → Except Fault Bytes
  | [] => .ok []
  | action :: actions =>
    let outcome := host.perform worker action
    match outcome.answer with
    | .fault fault => .error fault
    | .transcript transcript =>
      (play outcome.host outcome.worker actions).map (transcript.bytes ++ ·)
    | _ => play outcome.host outcome.worker actions

def runDemo (capacity count : Nat) (now : Instant) (memory : Memory) : Reaction :=
  match play { store := Store.ofConfig {} } {} (demo capacity count now memory) with
  | .ok out => .exit 0 out ""
  | .error (.error error) => fail error
  | .error .waits => fail Store.alreadyHeld

/-- A store with a default buffer and one more, for the console to show. -/
def serveStore (capacity : Nat) (memory : Memory) : Except Fault Store := do
  let (up, store) := (Store.ofConfig {}).init capacity memory
  up
  let (added, store) := store.create 0 capacity memory
  let _ ← added
  return store

/-- The options are read in order, then the store is brought up, and the address is checked last. -/
def serve (memory : Memory) (value : String → String) : Except Error Reaction := do
  let some address := Address.parse? (value "bind") | throw (invalid "bind")
  let port ← number value "port" UInt16.size
  let capacity ← number value "capacity" UInt64.size
  let _threads ← number value "threads" UInt64.size
  let _interval ← number value "interval" UInt64.size
  match serveStore capacity memory with
  | .error (.error error) => throw error
  | .error .waits => throw Store.alreadyHeld
  | .ok store =>
    let settings : Settings := { address, port := port.toUInt16 }
    settings.validate
    return .serve settings store

def ofExcept : Except Error Reaction → Reaction
  | .ok reaction => reaction
  | .error error => fail error

/-- The program's name and version. A command has a name of its own, but no version. -/
def version (command : Option String) : String :=
  let program := "ringlog-cli"
  match command with
  | none => program ++ " " ++ Limits.version ++ "\n"
  | some command => program ++ "-" ++ command ++ " \n"

/-- Reacts to the options of a command, or of the program itself, if they are well-formed. -/
def withOptions (command : Option String) (flags : List Flag) (arguments : List String)
    (react : (String → String) → Except Error Reaction) : Reaction :=
  match settled flags arguments with
  | .error (.misplaced argument) => misuse argument
  | .error .version => succeed (version command)
  | .ok value => ofExcept (react value)

def run (arguments : List String) (now : Instant) (memory : Memory) : Reaction :=
  match arguments with
  | "info" :: rest => withOptions "info" [] rest fun _ => .ok (succeed info)
  | "demo" :: rest =>
    withOptions "demo" demoFlags rest fun value => do
      let capacity ← number value "capacity" UInt64.size
      let count ← number value "count" UInt64.size
      return runDemo capacity count now memory
  | "serve" :: rest => withOptions "serve" serveFlags rest (serve memory)
  | rest => withOptions none [] rest fun _ => .ok (succeed hint)

end EventLog.CommandLine
