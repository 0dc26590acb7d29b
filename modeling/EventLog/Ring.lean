import EventLog.Memory
import EventLog.Ring.Slot
import EventLog.SpinLock

/-! A circular buffer of events. Writing reserves the slot under the cursor and then fills it; the two
steps may be apart, and other writers may come between them. -/
namespace EventLog

structure Ring where
  slots : List Slot
  lock : SpinLock := {}
  next : Nat := 0
  wraps : UInt64 := 0
  dropped : UInt64 := 0

/-- The bookkeeping of a ring. -/
structure Status where
  capacity : Nat := 0
  used : Nat := 0
  wraps : UInt64 := 0
  dropped : UInt64 := 0
  next : Nat := 0
  deriving DecidableEq, Repr

namespace Status

def hasWrapped (status : Status) : Bool := 0 < status.wraps

/-- The share of slots in use. -/
def fillRatio (status : Status) : Float :=
  if status.capacity = 0 then 0
  else status.used.toUInt64.toFloat / status.capacity.toUInt64.toFloat

end Status

/-- The events of a ring, oldest first, and its bookkeeping when they were copied. -/
structure Snapshot where
  status : Status
  records : List Record

def Snapshot.messages (snapshot : Snapshot) : List String := snapshot.records.map Record.message

namespace Ring

/-- A ring of unused slots, if there is room for them. -/
def new? (memory : Memory) (capacity : Nat) : Except Error Ring :=
  if capacity = 0 then
    .error (.invalidParameter "capacity" "Ring buffer capacity must be greater than 0")
  else if memory capacity then
    .ok { slots := List.replicate capacity {} }
  else
    .error (.memory ("Failed to allocate " ++ Numeral.decimal capacity ++ " event slots"))

def capacity (ring : Ring) : Nat := ring.slots.length

def recordDrop (ring : Ring) : Ring := { ring with dropped := ring.dropped + 1 }

def recordWrap (ring : Ring) : Ring := { ring with wraps := ring.wraps + 1 }

def resetCounters (ring : Ring) : Ring := { ring with wraps := 0, dropped := 0 }

/-- Reserves the slot under the cursor. While the ring is locked the event is dropped instead. -/
def advance (ring : Ring) : Except Error Nat × Ring :=
  if (ring.lock.lockBounded Limits.writerSpins).1 then
    let next := (ring.next + 1) % ring.capacity
    let moved := { ring with next }
    (.ok ring.next, if next = 0 then moved.recordWrap else moved)
  else
    (.error .eventLocked, ring.recordDrop)

/-- Fills a slot. While another writer holds the slot the event is dropped instead. -/
def populate (ring : Ring) (index : Nat) (event : Event) (registry : Registry) (now : Instant) :
    Except Error Unit × Ring :=
  match ring.slots[index]? with
  | none =>
    (.error (.invalidParameter "index" ("Slot " ++ Numeral.decimal index ++
      " out of range for capacity " ++ Numeral.decimal ring.capacity)), ring)
  | some slot =>
    match slot.populate? event registry now with
    | some slot => (.ok (), { ring with slots := ring.slots.set index slot })
    | none => (.error .eventLocked, ring.recordDrop)

def append (ring : Ring) (event : Event) (registry : Registry) (now : Instant) :
    Except Error Unit × Ring :=
  match ring.advance with
  | (.ok index, ring) => ring.populate index event registry now
  | (.error error, ring) => (.error error, ring)

/-- Empties the ring, for a caller who holds its lock. -/
def resetHeld (ring : Ring) : Ring :=
  { slots := List.replicate ring.capacity {}, lock := ring.lock }

def statusHeld (ring : Ring) : Status :=
  { capacity := ring.capacity
    used := ring.slots.countP Slot.used
    wraps := ring.wraps
    dropped := ring.dropped
    next := ring.next }

/-- The indices in cyclic order, from the cursor once the ring has wrapped. -/
def order (ring : Ring) : List Nat :=
  let start := if 0 < ring.wraps then ring.next else 0
  (List.range ring.capacity).map fun offset => (start + offset) % ring.capacity

def snapshotHeld (ring : Ring) : Snapshot :=
  { status := ring.statusHeld
    records := ring.order.filterMap fun index => do (← ring.slots[index]?).read? index }

/-- The same for a caller who has to take the lock first; none when it would wait forever. -/
def reset? (ring : Ring) : Option Ring := ring.lock.lock?.map fun _ => ring.resetHeld

def status? (ring : Ring) : Option Status := ring.lock.lock?.map fun _ => ring.statusHeld

def snapshot? (ring : Ring) : Option Snapshot := ring.lock.lock?.map fun _ => ring.snapshotHeld

def acquire? (ring : Ring) : Option Ring := ring.lock.lock?.map fun lock => { ring with lock }

def release (ring : Ring) : Ring := { ring with lock := ring.lock.unlock }

inductive Action where
  | advance
  | populate (index : Nat) (event : Event) (now : Instant)
  | append (event : Event) (now : Instant)
  | reset
  | status
  | snapshot
  | recordDrop
  | recordWrap
  | resetCounters

inductive Answer where
  | done
  | index (value : Nat)
  | status (value : Status)
  | snapshot (value : Snapshot)
  | error (error : Error)
  | waits

def step (registry : Registry) (ring : Ring) : Action → Answer × Ring
  | .advance =>
    match ring.advance with
    | (.ok index, ring) => (.index index, ring)
    | (.error error, ring) => (.error error, ring)
  | .populate index event now =>
    match ring.populate index event registry now with
    | (.ok (), ring) => (.done, ring)
    | (.error error, ring) => (.error error, ring)
  | .append event now =>
    match ring.append event registry now with
    | (.ok (), ring) => (.done, ring)
    | (.error error, ring) => (.error error, ring)
  | .reset =>
    match ring.reset? with
    | some ring => (.done, ring)
    | none => (.waits, ring)
  | .status => (match ring.status? with | some status => .status status | none => .waits, ring)
  | .snapshot =>
    (match ring.snapshot? with | some snapshot => .snapshot snapshot | none => .waits, ring)
  | .recordDrop => (.done, ring.recordDrop)
  | .recordWrap => (.done, ring.recordWrap)
  | .resetCounters => (.done, ring.resetCounters)

end Ring
end EventLog
