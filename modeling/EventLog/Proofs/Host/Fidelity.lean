import EventLog.Proofs.Host.Books
import EventLog.Proofs.Text.Cut

/-! What is to be read of an event that was taken. The record is made of the event, the thread and the
registry; the slot, whatever it held before, adds its number and nothing else. -/
namespace EventLog

/-- A text as it is shown: not at all when it is empty. -/
def shown? (text : String) : Option String := if text = "" then none else some text

/-- A payload as it is kept, with the renderer of its kind: not at all if it has no kind or no bytes. -/
def Payload.kept? (payload : Payload) (registry : Registry) : Option StoredPayload :=
  if payload.type = .none ∨ payload.data = [] then none
  else
    some { type := payload.type, data := payload.data, renderer := registry.resolve? payload.type }

/-- The record of an event in the slot with the given number. The thread of the event, were it empty,
stands before the name of the thread that writes it. -/
def Event.recorded (event : Event) (context : Context) (registry : Registry) (now : Instant)
    (slot : Nat) : Record :=
  { slot
    thread := shown? (cut (event.thread.getD context.name) 31)
    function := shown? (cut (event.function.getD "") 31)
    message := cut event.message 255
    line := event.line
    time := now
    indent := event.indent.getD context.depth
    payload := event.payload.bind fun payload => payload.kept? registry }

theorem Field.kept_eq_shown? (capacity : Nat) (text : Option String) :
    Field.kept capacity text = shown? (cut (text.getD "") (capacity - 1)) := by
  unfold kept shown?
  cases text with
  | none => simp
  | some text =>
    by_cases hempty : cut text (capacity - 1) = ""
    · simp [Option.filter, hempty]
    · simp [Option.filter, hempty]

theorem Slot.store_eq_kept? (registry : Registry) (payload : Option Payload) :
    store registry payload = payload.bind fun payload => payload.kept? registry := by
  unfold store
  cases payload with
  | none => rfl
  | some payload =>
    have hstorable : payload.isStorable = true ↔ ¬ (payload.type = .none ∨ payload.data = []) := by
      simp [Payload.isStorable, EventType.isNone]
    show _ = payload.kept? registry
    unfold Payload.kept?
    split
    · next hplain =>
      rw [Option.filter_some, if_neg (fun h => hstorable.mp h hplain)]
      rfl
    · next hrich =>
      rw [Option.filter_some, if_pos (hstorable.mpr hrich)]
      rfl

theorem Context.getD_name? (context : Context) (thread : Option String) :
    (thread <|> context.name?).getD "" = thread.getD context.name := by
  unfold name?
  cases thread with
  | some thread => rfl
  | none =>
    show (if context.name.isEmpty then none else some context.name).getD "" = context.name
    split
    · next hempty => exact (String.isEmpty_iff.mp hempty).symm
    · rfl

/-- The record of a write that a thread has completed. -/
theorem Event.record_complete (event : Event) (context : Context) (registry : Registry)
    (now : Instant) (slot : Nat) :
    Write.record ⟨context.complete event, registry, now⟩ slot =
      event.recorded context registry now slot := by
  unfold Write.record recorded Context.complete
  dsimp only
  rw [Field.kept_eq_shown?, Field.kept_eq_shown?, Slot.store_eq_kept?, Context.getD_name?]
  rfl

/-- A name that was cut when it was given is cut to the same when an event is written. -/
theorem Event.recorded_setName (event : Event) (context : Context) (name : String)
    (registry : Registry) (now : Instant) (slot : Nat) :
    event.recorded (context.setName name) registry now slot =
      event.recorded { context with name } registry now slot := by
  have hcut : cut (cut name (Limits.threadCapacity - 1)) 31 = cut name 31 := cut_cut name 31
  unfold recorded Context.setName
  cases event.thread with
  | none =>
    dsimp only [Option.getD_none]
    rw [hcut]
  | some thread => rfl

/-- A ring whose lock is free is copied for any thread. -/
theorem Store.snapshot_of_free {store : Store} {id : Nat} {ring : Ring}
    (hup : store.isInitialized = true) (hget : store.table.get? id = some ring)
    (hfree : ring.lock = {}) (me : ThreadId) : store.snapshot me id = .ok ring.snapshotHeld := by
  have hrequire : store.require id = .ok ring := by
    unfold require
    rw [hup, hget]
    rfl
  have hsnapshot : ring.snapshot? = some ring.snapshotHeld := by
    unfold Ring.snapshot?
    rw [hfree]
    rfl
  unfold snapshot
  rw [hrequire]
  show (if store.holdsRings me = true then _ else orWaits ring.snapshot?) = _
  rw [hsnapshot]
  split <;> rfl

/-- An event that was taken is in the account of its ring. -/
theorem Table.Booked.of_log_ok {store next : Store} {ledger : Ledger} {context : Context}
    {target : Target} {event : Event} {now : Instant} (h : store.table.Booked ledger)
    (hlog : store.log context target event now = (.ok (), next)) :
    ∃ id capacity, 0 < capacity ∧ store.isInitialized = true ∧
      store.table.named? target = some id ∧
      store.table.get? id = some (Ring.ofAccount capacity (ledger id) false) ∧
      next = { store with
        table := store.table.put id (Ring.ofAccount capacity
          ((ledger id).accept ⟨context.complete event, store.registry, now⟩) false) } := by
  unfold Store.log at hlog
  split at hlog
  · cases hlog
  · next id ring hdestination =>
    obtain ⟨hnamed, hget⟩ := Store.destination_eq_ok hdestination
    obtain ⟨hup, -, -⟩ := Store.admits_of_destination hdestination
    obtain ⟨capacity, locked, hcapacity, rfl⟩ := h id ring hget
    let write : Write := ⟨context.complete event, store.registry, now⟩
    cases locked with
    | true =>
      have happend : (Ring.ofAccount capacity (ledger id) true).append write.event write.registry
          write.time = (.error .eventLocked, _) := Ring.append_ofAccount_locked write
      rw [happend] at hlog
      cases hlog
    | false =>
      have happend : (Ring.ofAccount capacity (ledger id) false).append write.event write.registry
          write.time = (.ok (), _) := Ring.append_ofAccount hcapacity write
      rw [happend] at hlog
      cases hlog
      exact ⟨id, capacity, hcapacity, hup, hnamed, hget, rfl⟩

namespace Crew

section
variable {crew : Crew}

/-- Whatever any threads did before, the newest record of the buffer that has taken an event is the one
that the event, the thread and the registry make, in the slot that was under the cursor. Every thread
sees it, it is all that is seen of the slot, and it comes last for as long as no counter can have run
over. A text is cut to the longest beginning that fits; cutting the name of a thread when it is given
and again when an event is written makes no difference. -/
theorem newest_record_shows_event {config : Config} {start next : Store}
    {turns : List (ThreadId × Action)} {context : Context} {target : Target} {event : Event}
    {now : Instant} (hnew : Store.new? config = .ok start)
    (hrun : run { host := { store := start } } turns = crew)
    (hlog : crew.host.store.log context target event now = (.ok (), next)) :
    (∃ id ring snapshot record, crew.host.store.table.named? target = some id ∧
      crew.host.store.table.get? id = some ring ∧
      (∀ me, next.snapshot me id = .ok snapshot) ∧
      record = event.recorded context crew.host.store.registry now ring.next ∧
      record ∈ snapshot.records ∧
      (∀ other ∈ snapshot.records, other.slot = ring.next → other = record) ∧
      (turns.length + 1 < 2 ^ 64 → snapshot.records.getLast? = some record)) ∧
    (∀ text room, (cut text room).toList <+: text.toList ∧
      (Utf8.encode (cut text room)).length ≤ room ∧
      ∀ beginning, beginning <+: text.toList → (Utf8.encodeChars beginning).length ≤ room →
        beginning <+: (cut text room).toList) ∧
    ∀ base name slot, event.recorded (Context.setName base name) crew.host.store.registry now slot =
      event.recorded { base with name } crew.host.store.registry now slot := by
  obtain ⟨ledger, hbooked, hwithin⟩ := accounted_of_new hnew turns
  rw [hrun] at hbooked
  obtain ⟨id, capacity, hcapacity, hup, hnamed, hget, rfl⟩ := hbooked.of_log_ok hlog
  refine ⟨?_, cut_spec, fun base name => event.recorded_setName base name _ now⟩
  obtain ⟨hmem, honly⟩ := Ring.records_ofWrites_concat hcapacity (ledger id).accepted
    ⟨context.complete event, crew.host.store.registry, now⟩ (ledger id).refused
  rw [Event.record_complete] at hmem honly
  refine ⟨id, _, _, _, hnamed, hget, ?_, rfl, hmem, honly, ?_⟩
  · refine Store.snapshot_of_free hup ?_ rfl
    rw [Table.get?_put_of_lt (Table.lt_size hget), if_pos rfl]
    rfl
  · intro hturns
    have hlength := hwithin id
    have hbound : ((ledger id).accept
        ⟨context.complete event, crew.host.store.registry, now⟩).accepted.length < 2 ^ 64 := by
      unfold Account.accept
      rw [List.length_append, List.length_singleton]
      omega
    have hlast := Ring.getLast?_lastRecords hcapacity (ledger id).accepted
      ⟨context.complete event, crew.host.store.registry, now⟩
    rw [Event.record_complete] at hlast
    exact (congrArg List.getLast? (Ring.records_ofWrites hcapacity hbound _)).trans hlast

/-- A buffer of one slot, with an event of a named thread that has everything an event can have. -/
def lavish : List (ThreadId × Action) :=
  [(0, .init 1), (0, .setName "worker"), (0, .enter),
    (0, .log .default
      { message := String.ofList (List.replicate 300 'm'), function := some "main", line := some 7
        payload := some { type := .hexDump, data := [1, 2, 3] } } {})]

/-- A text whose last character does not fit, and a thread that does not want to be named. -/
def sparse : Event :=
  { message := String.ofList (List.replicate 254 'x' ++ "é".toList), thread := some "" }

/-- Nothing is left of the event that was in the slot before. -/
theorem newest_record_shows_event_sparse :
    ∃ start crew next snapshot record, Store.new? {} = .ok start ∧
      run { host := { store := start } } lavish = crew ∧
      crew.host.store.log (crew.worker 0).context .default sparse {} = (.ok (), next) ∧
      next.snapshot 1 0 = .ok snapshot ∧ snapshot.records.getLast? = some record ∧
      record.message = String.ofList (List.replicate 254 'x') ∧ record.thread = none ∧
      record.function = none ∧ record.line = none ∧ record.indent = 1 ∧ record.payload = none := by
  have hnew : Store.new? {} = .ok (Store.ofConfig {}) := rfl
  have hlog : (run { host := { store := Store.ofConfig {} } } lavish).host.store.log
      ((run { host := { store := Store.ofConfig {} } } lavish).worker 0).context .default sparse {} =
        (.ok (), _) := rfl
  obtain ⟨⟨id, ring, snapshot, record, hnamed, -, hsnapshot, hrecord, -, -, hlast⟩, -, -⟩ :=
    newest_record_shows_event hnew rfl hlog
  obtain rfl : 0 = id := Option.some.inj hnamed
  have hfit : fit 255 (List.replicate 254 'x' ++ "é".toList) = List.replicate 254 'x' := by
    decide +kernel
  have hmessage : cut sparse.message 255 = String.ofList (List.replicate 254 'x') := by
    unfold cut sparse
    rw [String.toList_ofList, hfit]
  refine ⟨_, _, _, snapshot, record, hnew, rfl, hlog, hsnapshot 1, hlast (by decide), ?_⟩
  rw [hrecord]
  exact ⟨hmessage, rfl, rfl, rfl, rfl, rfl⟩

end
end Crew
end EventLog
