import EventLog.Console.Settings
import EventLog.Host.Kept
import EventLog.Store.Write

/-! A process that hosts a store, and the threads at work on it. What a thread does is an action; its
outcome is an answer, the notices for the process's own journal, and the host and thread afterwards. -/
namespace EventLog

/-- A thread: its context, the scopes it is in, and the global lock it may hold. -/
structure Worker where
  id : ThreadId := 0
  context : Context := {}
  scopes : Nat := 0
  guard : Option Guard := none

structure Host where
  store : Store
  kept : Kept := {}
  uses : Uses := {}

/-- What the library reports to the journal of the process. -/
inductive Notice where
  | initialized (capacity buffers : Nat)
  | cleanedUp
  | created (id capacity : Nat)
  | deleted (id : Nat)
  | registered (name : String) (type : EventType)
  | resetFailed (error : Error)
  deriving DecidableEq, Repr

namespace Notice

def level : Notice → String
  | resetFailed _ => "WARN"
  | _ => "DEBUG"

def text : Notice → String
  | initialized capacity buffers =>
    "Log store initialized (default capacity " ++ Numeral.decimal capacity ++ ", " ++
      Numeral.decimal buffers ++ " buffer slots)"
  | cleanedUp => "Log store cleaned up"
  | created id capacity =>
    "Created buffer " ++ Numeral.decimal id ++ " with " ++ Numeral.decimal capacity ++ " slots"
  | deleted id => "Deleted buffer " ++ Numeral.decimal id
  | registered name type => "registered " ++ name ++ " renderer as " ++ type.text
  | resetFailed error => "Console reset failed: " ++ error.message

def entry (notice : Notice) : String := notice.level ++ " " ++ notice.text

end Notice

/-- What a thread may do. An action that allocates comes with the memory that there is then. -/
inductive Action where
  | init (capacity : Nat) (memory : Memory := .ample)
  | cleanup
  | create (capacity : Nat) (memory : Memory := .ample)
  | delete (id : Nat)
  | reset (id : Nat)
  | resetAll
  | enable
  | disable
  | toggle
  /-- A thread without the lock may take it, simple or full. -/
  | lock (full : Bool)
  | unlock
  | register (renderer : Renderer)
  | setName (name : String)
  | clearName
  | enter
  | leave
  | log (target : Target) (event : Event) (now : Instant)
  | snapshot (id : Nat)
  | statuses
  | list (room : Option Nat)
  | dump (id : Nat) (room : Option Nat)
  | dumpAll (withStatus withEvents : Bool) (room : Option Nat)
  | session (source : Source) (room : Option Nat)

inductive Answer where
  | done
  | flag (value : Bool)
  | id (value : Nat)
  | type (value : EventType)
  | guard (value : Guard)
  | snapshot (value : Snapshot)
  | statuses (value : List (Nat × Status))
  | transcript (value : Transcript)
  /-- With the active buffer before and after. -/
  | session (value : Transcript) (before after : Nat)
  | fault (value : Fault)

structure Outcome where
  answer : Answer
  notices : List Notice := []
  host : Host
  worker : Worker

namespace Host

/-- The host with a new store, following the rings that left the table. -/
def withStore (host : Host) (store : Store) : Host :=
  { host with store, kept := host.kept.follow host.store.table store.table }

/-- The outcome of a change to the store. -/
def changed {α : Type} (host : Host) (worker : Worker) (result : Except Fault α × Store)
    (answer : α → Answer) (notices : α → List Notice) : Outcome :=
  match result with
  | (.ok value, store) =>
    { answer := answer value, notices := notices value, host := host.withStore store, worker }
  | (.error fault, store) => { answer := .fault fault, host := host.withStore store, worker }

/-- The outcome of looking at the store. -/
def seen {α : Type} (host : Host) (worker : Worker) (result : Except Fault α)
    (answer : α → Answer) : Outcome :=
  match result with
  | .ok value => { answer := answer value, host, worker }
  | .error fault => { answer := .fault fault, host, worker }

def written (host : Host) (worker : Worker) (room : Option Nat) (writer : Emit Unit) : Outcome :=
  let (transcript, uses) := writer.transcript room host.uses
  { answer := .transcript transcript, host := { host with uses }, worker }

def liftError {α : Type} (result : Except Error α × Store) : Except Fault α × Store :=
  (result.1.mapError Fault.error, result.2)

/-- What is left of a session when it has ended, for the one who started it. -/
def closed (host : Host) (result : Except Halt Unit × Session) : Transcript × Host :=
  let halt :=
    match result.1 with
    | .ok () => none
    | .error halt => some halt
  ({ bytes := result.2.channel.sink.bytes, halt },
    { host.withStore result.2.store with uses := result.2.channel.uses })

def session (host : Host) (worker : Worker) (source : Source) (room : Option Nat) : Outcome :=
  let start := Session.start host.store worker.id source { sink := { room }, uses := host.uses }
  let result := start.run
  let (transcript, host) := host.closed result
  { answer := .session transcript start.active result.2.active
    notices := result.2.failures.map .resetFailed
    host
    worker }

/-- Serves a peer on a thread of its own, which has nothing to do with the caller's. -/
def serve (host : Host) (me : ThreadId) (source : Source) (banner : String) : Transcript × Host :=
  host.closed ((Session.start host.store me source { uses := host.uses }).serve banner)

def perform (host : Host) (worker : Worker) : Action → Outcome
  | .init capacity memory =>
    host.changed worker (host.store.init capacity memory) (fun _ => .done)
      fun _ => [.initialized capacity host.store.config.maxBuffers]
  | .cleanup =>
    host.changed worker (host.store.cleanup worker.id) (fun _ => .done) fun _ => [.cleanedUp]
  | .create capacity memory =>
    host.changed worker (host.store.create worker.id capacity memory) .id
      fun id => [.created id (host.store.config.clamp capacity)]
  | .delete id =>
    host.changed worker (host.store.delete worker.id id) (fun _ => .done) fun _ => [.deleted id]
  | .reset id => host.changed worker (host.store.reset worker.id id) (fun _ => .done) fun _ => []
  | .resetAll =>
    host.changed worker (host.store.resetAll worker.id) (fun _ => .done) fun _ => []
  | .enable => { answer := .done, host := { host with store := host.store.enable }, worker }
  | .disable => { answer := .done, host := { host with store := host.store.disable }, worker }
  | .toggle =>
    let store := host.store.toggle
    { answer := .flag store.enabled, host := { host with store }, worker }
  | .lock full =>
    match host.store.lockGlobal worker.id full with
    | (.ok guard, store) =>
      { answer := .guard guard, host := host.withStore store
        worker := { worker with guard := some guard } }
    | (.error fault, store) => { answer := .fault fault, host := host.withStore store, worker }
  | .unlock =>
    match worker.guard with
    | some guard =>
      { answer := .flag true, host := host.withStore (host.store.release guard)
        worker := { worker with guard := none } }
    | none => { answer := .flag false, host, worker }
  | .register renderer =>
    host.changed worker (liftError (host.store.register renderer)) .type fun type =>
      if (host.store.registry.find? renderer).isSome then [] else [.registered renderer.name type]
  | .setName name =>
    { answer := .done, host, worker := { worker with context := worker.context.setName name } }
  | .clearName =>
    { answer := .done, host, worker := { worker with context := worker.context.clearName } }
  | .enter =>
    { answer := .done, host
      worker := { worker with context := worker.context.enter, scopes := worker.scopes + 1 } }
  | .leave =>
    if worker.scopes = 0 then { answer := .flag false, host, worker }
    else
      { answer := .flag true, host
        worker := { worker with context := worker.context.leave, scopes := worker.scopes - 1 } }
  | .log target event now =>
    host.changed worker (liftError (host.store.log worker.context target event now))
      (fun _ => .done) fun _ => []
  | .snapshot id => host.seen worker (host.store.snapshot worker.id id) .snapshot
  | .statuses => host.seen worker (host.store.statuses worker.id) .statuses
  | .list room => host.written worker room (Report.list host.store)
  | .dump id room => host.written worker room (Report.buffer host.store worker.id id)
  | .dumpAll withStatus withEvents room =>
    host.written worker room (Report.all host.store worker.id withStatus withEvents)
  | .session source room => host.session worker source room

/-- Keeps a ring of the table under a key. -/
def hold (host : Host) (key : String) (id : Nat) : Bool × Host :=
  match host.store.table.get? id with
  | some _ => (true, { host with kept := host.kept.keep key id })
  | none => (false, host)

def kept? (host : Host) (key : String) : Option Ring := do
  match ← host.kept.handles.lookup key with
  | .stored id => host.store.table.get? id
  | .detached index => host.kept.detached[index]?

def replaceKept (host : Host) (key : String) (ring : Ring) : Host :=
  match host.kept.handles.lookup key with
  | some (.stored id) =>
    { host with store := { host.store with table := host.store.table.put id ring } }
  | some (.detached index) =>
    { host with kept := { host.kept with detached := host.kept.detached.set index ring } }
  | none => host

/-- A step on a kept ring, with the renderers of the store. -/
def onKept (host : Host) (key : String) (action : Ring.Action) : Option (Ring.Answer × Host) :=
  (host.kept? key).map fun ring =>
    let (answer, ring) := ring.step host.store.registry action
    (answer, host.replaceKept key ring)

end Host
end EventLog
