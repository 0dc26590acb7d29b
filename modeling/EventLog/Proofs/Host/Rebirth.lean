import EventLog.Proofs.Host.Allocation
import EventLog.Proofs.Host.Kept
import EventLog.Proofs.Host.Registrations
import EventLog.Proofs.Store.Switch

/-! A store that was brought down is as it was built, but for its renderers. From then on it is answered
as a new one would be that has the same renderers; their types last as long as the store does. Rings that
someone keeps go on by themselves, out of its reach. -/
namespace EventLog

/-- Two hosts that differ at most in the rings that are kept outside their stores. -/
structure Host.Alike (host other : Host) : Prop where
  store_eq : host.store = other.store
  uses_eq : host.uses = other.uses

/-- Two outcomes that are the same to the thread, on hosts that are alike. -/
structure Outcome.Alike (outcome other : Outcome) : Prop where
  answer_eq : outcome.answer = other.answer
  notices_eq : outcome.notices = other.notices
  worker_eq : outcome.worker = other.worker
  host : outcome.host.Alike other.host

namespace Host.Alike

section
variable {host other : Host}

theorem changed {α : Type} (h : host.Alike other) (worker : Worker)
    (result : Except Fault α × Store) (answer : α → Answer) (notices : α → List Notice) :
    (host.changed worker result answer notices).Alike
      (other.changed worker result answer notices) := by
  obtain ⟨result, store⟩ := result
  cases result with
  | ok value => exact ⟨rfl, rfl, rfl, rfl, h.uses_eq⟩
  | error fault => exact ⟨rfl, rfl, rfl, rfl, h.uses_eq⟩

theorem seen {α : Type} (h : host.Alike other) (worker : Worker) (result : Except Fault α)
    (answer : α → Answer) :
    (host.seen worker result answer).Alike (other.seen worker result answer) := by
  cases result with
  | ok value => exact ⟨rfl, rfl, rfl, h⟩
  | error fault => exact ⟨rfl, rfl, rfl, h⟩

/-- No action looks at the rings that are kept outside the store. -/
theorem perform (h : host.Alike other) (worker : Worker) (action : Action) :
    (host.perform worker action).Alike (other.perform worker action) := by
  obtain ⟨store, kept, uses⟩ := host
  obtain ⟨_, others, _⟩ := other
  obtain ⟨rfl, rfl⟩ := h
  have h : Host.Alike ⟨store, kept, uses⟩ ⟨store, others, uses⟩ := ⟨rfl, rfl⟩
  cases action with
  | init _ _ | cleanup | create _ _ | delete _ | reset _ | resetAll | register _ | log _ _ _ =>
    exact h.changed worker _ _ _
  | snapshot _ | statuses => exact h.seen worker _ _
  | lock full =>
    unfold Host.perform
    dsimp only
    split
    · exact ⟨rfl, rfl, rfl, rfl, rfl⟩
    · exact ⟨rfl, rfl, rfl, rfl, rfl⟩
  | unlock =>
    unfold Host.perform
    dsimp only
    cases worker.guard with
    | some guard => exact ⟨rfl, rfl, rfl, rfl, rfl⟩
    | none => exact ⟨rfl, rfl, rfl, h⟩
  | leave =>
    unfold Host.perform
    dsimp only
    split
    · exact ⟨rfl, rfl, rfl, h⟩
    · exact ⟨rfl, rfl, rfl, h⟩
  | _ => exact ⟨rfl, rfl, rfl, rfl, rfl⟩

end
end Host.Alike

namespace Crew

section
variable {crew other : Crew}

theorem alike_step (h : crew.host.Alike other.host) (hworker : crew.worker = other.worker)
    (turn : ThreadId × Action) :
    (crew.step turn).host.Alike (other.step turn).host ∧
      (crew.step turn).worker = (other.step turn).worker := by
  have houtcome := h.perform (crew.worker turn.1) turn.2
  unfold step
  rw [← hworker]
  refine ⟨houtcome.host, ?_⟩
  dsimp only
  rw [houtcome.worker_eq]

/-- Crews with the same threads on hosts that are alike are answered alike. -/
theorem replies_eq_of_alike (h : crew.host.Alike other.host) (hworker : crew.worker = other.worker)
    (turns : List (ThreadId × Action)) :
    crew.replies turns = other.replies turns ∧
      (crew.run turns).host.store = (other.run turns).host.store := by
  induction turns generalizing crew other with
  | nil => exact ⟨rfl, h.store_eq⟩
  | cons turn turns ih =>
    have houtcome := h.perform (crew.worker turn.1) turn.2
    obtain ⟨hstep, hworkers⟩ := alike_step h hworker turn
    obtain ⟨hreplies, hstore⟩ := ih hstep hworkers
    refine ⟨?_, hstore⟩
    unfold replies
    dsimp only
    rw [← hworker, houtcome.answer_eq, houtcome.notices_eq, hreplies]

/-- A store is brought down only while no thread has a guard, and it is then as it was built, with the
renderers that it has. -/
theorem Sound.of_cleanup (h : crew.Sound) {config : Config}
    (hallocated : crew.host.store.Allocated config crew.requests) {me : ThreadId}
    (hdone : (crew.host.perform (crew.worker me) .cleanup).answer = .done) :
    (∀ other, (crew.worker other).guard = none) ∧
      (crew.step (me, .cleanup)).worker = crew.worker ∧
      (crew.step (me, .cleanup)).host.uses = crew.host.uses ∧
      (crew.step (me, .cleanup)).host.store =
        { Store.ofConfig config with registry := crew.host.store.registry } := by
  change (crew.host.changed (crew.worker me) (crew.host.store.cleanup (crew.worker me).id) _
    _).answer = .done at hdone
  rcases Store.cleanup_cases crew.host.store (crew.worker me).id with ⟨_, herror⟩ | hok
  · rw [herror] at hdone
    cases hdone
  refine ⟨?_, ?_, ?_, ?_⟩
  · intro other
    cases hguard : (crew.worker other).guard with
    | none => rfl
    | some taken =>
      have hlocked : crew.host.store.globalLock.locked = true :=
        (h.phase_of_guard hguard).globalLock_iff.mpr rfl
      obtain ⟨_, herror⟩ := Store.cleanup_of_locked hlocked (crew.worker me).id
      cases herror.symm.trans hok
  · exact worker_step_eq (Host.worker_changed _ _ _ _ _)
  · show (crew.host.changed _ (crew.host.store.cleanup (crew.worker me).id) _ _).host.uses = _
    rw [hok]
    rfl
  · rw [store_step]
    show (crew.host.store.cleanup (crew.worker me).id).2 = _
    rw [hok, hallocated.table.size_eq, ← hallocated.config_eq]
    rfl

/-- The ring of the table is kept under a key as well. -/
def keeping (crew : Crew) (key : String) (id : Nat) : Crew :=
  { crew with host := (crew.host.hold key id).2 }

/-- What has left the table is not reached by any thread that works with the store. -/
theorem apart_run {key : String} {ring : Ring} (h : crew.host.kept.Apart key ring)
    (turns : List (ThreadId × Action)) : (crew.run turns).host.kept.Apart key ring := by
  induction turns generalizing crew with
  | nil => exact h
  | cons turn turns ih =>
    refine ih ?_
    show (crew.host.perform (crew.worker turn.1) turn.2).host.kept.Apart key ring
    rw [Host.kept_perform]
    exact h.follow _ _

/-- A kept ring that leaves the table with a turn is apart from then on. -/
theorem apart_keeping {key : String} {id : Nat} {ring : Ring} {turn : ThreadId × Action}
    (hget : crew.host.store.table.get? id = some ring)
    (hgone : (crew.step turn).host.store.table.get? id = none) :
    ((crew.keeping key id).step turn).host.kept.Apart key ring := by
  have halike : Host.Alike { crew.host with kept := crew.host.kept.keep key id } crew.host :=
    ⟨rfl, rfl⟩
  have hstore := (halike.perform (crew.worker turn.1) turn.2).host.store_eq
  unfold keeping
  rw [Host.hold_of_get? hget]
  show (Host.perform _ (crew.worker turn.1) turn.2).host.kept.Apart key ring
  rw [Host.kept_perform, ← Host.store_perform, hstore]
  exact Kept.apart_follow (Kept.lookup_keep _ key id) hget hgone

end

section
variable {config : Config} {start : Store} {turns : List (ThreadId × Action)} {crew : Crew}

/-- Whatever any threads did, once a store is brought down no thread has a guard, and every turn from
then on is answered as with a newly built store of the same limits whose registry has the same entries,
however it came by them. A ring that someone keeps stays as it was, whatever is done to the store. Up and
down any number of times, a renderer that was given a type is given the same one again, and a new one,
while there is room, is given a type above all dynamic ones that were given out before. That ends only
where the ids run over, for which a registry needs room for more than `2 ^ 32 - 14` entries. -/
theorem cleanup_returns_to_birth (hnew : Store.new? config = .ok start)
    (hrun : run { host := { store := start } } turns = crew) :
    (∀ me, (crew.host.perform (crew.worker me) .cleanup).answer = .done →
      (∀ other, ((crew.step (me, .cleanup)).worker other).guard = none) ∧
      (∃ actions, (Registry.Roll.run { registry := start.registry } actions).registry.entries =
        crew.host.store.registry.entries) ∧
      ∀ actions registry,
        (Registry.Roll.run { registry := start.registry } actions).registry = registry →
        registry.entries = crew.host.store.registry.entries →
        ∀ fresh : Crew, fresh.host.store = { start with registry } →
          fresh.host.uses = crew.host.uses → fresh.worker = crew.worker → ∀ later,
            (crew.step (me, .cleanup)).replies later = fresh.replies later ∧
              ((crew.step (me, .cleanup)).run later).host.store = (fresh.run later).host.store) ∧
    (∀ me, (crew.host.perform (crew.worker me) .cleanup).answer = .done →
      ∀ key id ring, crew.host.store.table.get? id = some ring → ∀ later,
        (((crew.keeping key id).step (me, .cleanup)).run later).host.kept? key = some ring) ∧
    (∀ given ∈ issued { host := { store := start } } turns, ∀ renderer,
      given.1.same renderer = true →
        crew.host.store.register renderer = (.ok given.2, crew.host.store)) ∧
    ∀ renderer type next,
      (∀ entry ∈ crew.host.store.registry.entries, entry.2.same renderer = false) →
      crew.host.store.register renderer = (.ok type, next) →
        crew.host.store.registry.entries.length < config.rendererCapacity ∧
        type.id.toNat = (14 + crew.host.store.registry.entries.length) % 2 ^ 32 ∧
        ((∀ given ∈ issued { host := { store := start } } turns, given.2.isDynamic = true →
            given.2.id < type.id) ↔
          14 + crew.host.store.registry.entries.length < 2 ^ 32) := by
  obtain ⟨hvalid, rfl⟩ := Store.eq_ofConfig_of_new? hnew
  obtain ⟨hsound, hallocated⟩ := run_induction
    (P := fun crew => crew.host.store.Allocated config crew.requests)
    (fun crew turn hsound h => allocated_step (Config.pos_of_validate hvalid).1 hsound h turn)
    (sound_start hnew) (.ofConfig config fun _ => 0) turns
  obtain ⟨history, hhistory⟩ := roll_run (sound_start hnew) turns []
  rw [hrun] at hsound hallocated hhistory
  have hregular (actions : List Registry.Action) : Registry.Roll.Regular config.rendererCapacity
      (Registry.Roll.run { registry := (Store.ofConfig config).registry } actions) :=
    (Registry.Roll.Regular.fresh rfl).run actions
  have hcrew := hregular history
  rw [hhistory] at hcrew
  refine ⟨?_, ?_, ?_, ?_⟩
  · intro me hdone
    obtain ⟨hfree, hworker, huses, hstore⟩ := hsound.of_cleanup hallocated hdone
    refine ⟨fun other => hworker ▸ hfree other, ⟨history, ?_⟩, ?_⟩
    · rw [hhistory]
    · rintro actions _ rfl hentries fresh hborn hfreshUses hfreshWorker later
      have hregistry := (hregular actions).registry_eq hcrew hentries
      refine replies_eq_of_alike ⟨?_, ?_⟩ ?_ later
      · rw [hstore, hborn, hregistry]
      · rw [huses, hfreshUses]
      · rw [hworker, hfreshWorker]
  · intro me hdone key id ring hget later
    obtain ⟨-, -, -, hstore⟩ := hsound.of_cleanup hallocated hdone
    have hgone : (crew.step (me, .cleanup)).host.store.table.get? id = none := by
      rw [hstore]
      exact Table.get?_empty config.maxBuffers id
    exact Host.kept?_of_apart (apart_run (apart_keeping hget hgone) later)
  · intro given hgiven renderer hsame
    unfold Store.register
    rw [hcrew.register_of_issued hgiven hsame]
  · intro renderer type next hnone hregister
    unfold Store.register at hregister
    cases hcall : crew.host.store.registry.register renderer with
    | mk result registry =>
      rw [hcall] at hregister
      cases hregister
      exact hcrew.type_of_new hnone hcall

def upper : Renderer := .function "upper" fun data => { pieces := [data] }

def lower : Renderer := .function "lower" fun data => { pieces := [data] }

/-- Two threads leave events, a buffer and a renderer behind, and the switch off. -/
def bustling : List (ThreadId × Action) :=
  [(0, .init 2), (0, .register upper), (1, .create 3), (1, .log .default { message := "a" } {}),
    (0, .disable)]

/-- Thread 1 brings the store down, and thread 0 up again. -/
def revival : List (ThreadId × Action) := [(1, .cleanup), (0, .init 4)]

theorem cleanup_returns_to_birth_revival :
    ∃ (start : Store) (crew fresh revived : Crew), Store.new? {} = .ok start ∧
      run { host := { store := start } } bustling = crew ∧
      (crew.host.perform (crew.worker 1) .cleanup).answer = .done ∧
      fresh.host.store = { start with registry := crew.host.store.registry } ∧
      (crew.step (1, .cleanup)).replies [(0, .init 4), (0, .register lower), (1, .snapshot 0)] =
        fresh.replies [(0, .init 4), (0, .register lower), (1, .snapshot 0)] ∧
      (∃ ring, (((crew.keeping "k" 0).step (1, .cleanup)).run [(0, .init 4)]).host.kept? "k" =
        some ring ∧ ring.capacity = 2) ∧
      run { host := { store := start } } (bustling ++ revival) = revived ∧
      (upper, ⟨16⟩) ∈ issued { host := { store := start } } (bustling ++ revival) ∧
      revived.host.store.register upper = (.ok ⟨16⟩, revived.host.store) ∧
      (revived.host.store.register lower).1 = .ok ⟨17⟩ ∧ (16 : UInt32) < 17 := by
  have hnew : Store.new? {} = .ok (Store.ofConfig {}) := rfl
  obtain ⟨hbirth, hapart, -, -⟩ := cleanup_returns_to_birth hnew
    (rfl : run { host := { store := Store.ofConfig {} } } bustling = _)
  obtain ⟨-, -, hfresh⟩ := hbirth 1 rfl
  obtain ⟨-, -, hagain, habove⟩ := cleanup_returns_to_birth hnew
    (rfl : run { host := { store := Store.ofConfig {} } } (bustling ++ revival) = _)
  have hissued : issued { host := { store := Store.ofConfig {} } } (bustling ++ revival) =
      [(upper, ⟨16⟩)] := rfl
  have hmem : (upper, ⟨16⟩) ∈
      issued { host := { store := Store.ofConfig {} } } (bustling ++ revival) := by
    rw [hissued]
    exact List.mem_cons_self
  obtain ⟨-, -, hiff⟩ := habove lower ⟨17⟩ _ (by decide) rfl
  let crew := run { host := { store := Store.ofConfig {} } } bustling
  let fresh : Crew :=
    { host := { store := { Store.ofConfig {} with registry := crew.host.store.registry } }
      worker := crew.worker }
  have hreplies := (hfresh [.install, .register upper] _ rfl rfl fresh rfl rfl rfl
    [(0, .init 4), (0, .register lower), (1, .snapshot 0)]).1
  exact ⟨_, crew, fresh, _, hnew, rfl, rfl, rfl, hreplies,
    ⟨_, hapart 1 rfl "k" 0 _ rfl [(0, .init 4)], rfl⟩, rfl, hmem, hagain _ hmem upper rfl, rfl,
    hiff.mpr (by decide) _ hmem rfl⟩

/-- Limits of a store with room for every id there is. -/
def spacious : Config := { rendererCapacity := 2 ^ 32 }

/-- Renderers that are told apart by a number. -/
def numbered (key : Nat) : Renderer := .shared key Renderer.defaultName fun _ _ => { pieces := [] }

/-- A thread brings the store up and registers that many renderers. -/
def crowding (count : Nat) : List (ThreadId × Action) :=
  (0, .init 0) :: (List.range count).map fun key => (0, .register (numbered key))

/-- The registry after that. -/
def crowded (count : Nat) : Registry :=
  { capacity := 2 ^ 32
    initialized := true
    entries := Registry.builtins ++ (List.range count).map fun key => (.dynamic key, numbered key)
    next := .dynamic count }

theorem not_same_of_crowded (count : Nat) :
    ∀ entry ∈ (crowded count).entries, entry.2.same (numbered count) = false := by
  intro entry hentry
  rcases List.mem_append.mp hentry with hbuiltin | hmem
  · rcases List.mem_cons.mp hbuiltin with rfl | hlast
    · rfl
    · obtain rfl := List.mem_singleton.mp hlast
      rfl
  · obtain ⟨key, hkey, rfl⟩ := List.mem_map.mp hmem
    exact beq_false_of_ne (List.mem_range.mp hkey).ne

theorem register_crowded {count : Nat} (hroom : count + 2 < 2 ^ 32) :
    (crowded count).register (numbered count) = (.ok (.dynamic count), crowded (count + 1)) := by
  have hnew := not_same_of_crowded count
  have hlength : (crowded count).entries.length = count + 2 := by
    simp [crowded, Registry.builtins]
  rcases Registry.register_cases (crowded count) (numbered count) with
    ⟨hearly, -⟩ | ⟨-, ⟨entry, hentry, hsame, -⟩ | ⟨-, ⟨hfull, -⟩ | ⟨-, hok⟩⟩⟩
  · cases hearly
  · rw [hnew entry hentry] at hsame
    cases hsame
  · rw [hlength] at hfull
    exact absurd hroom (Nat.not_lt.mpr hfull)
  · rw [hok]
    simp [Registry.enter, crowded, List.range_succ, EventType.next_dynamic]

theorem registry_crowding {count : Nat} (hroom : count + 2 ≤ 2 ^ 32) :
    (run { host := { store := Store.ofConfig spacious } } (crowding count)).host.store.registry =
      crowded count := by
  induction count with
  | zero => rfl
  | succ count ih =>
    have hconcat : crowding (count + 1) = crowding count ++ [(0, .register (numbered count))] := by
      unfold crowding
      rw [List.range_succ, List.map_append]
      rfl
    rw [hconcat, run_concat, store_step]
    unfold Host.storeAfter Store.register
    dsimp only
    rw [ih (by omega), register_crowded (by omega)]

/-- Where all ids have been given out, the next one is `0` again. -/
theorem ids_run_over {count : Nat} (hall : 16 + (count + 1) = 2 ^ 32) :
    ∃ (start : Store) (crew : Crew), Store.new? spacious = .ok start ∧
      run { host := { store := start } } (crowding (count + 1)) = crew ∧
      (numbered 0, ⟨16⟩) ∈ issued { host := { store := start } } (crowding (count + 1)) ∧
      (∀ entry ∈ crew.host.store.registry.entries,
        entry.2.same (numbered (count + 1)) = false) ∧
      (crew.host.store.register (numbered (count + 1))).1 = .ok ⟨0⟩ := by
  have hregistry := registry_crowding (show count + 1 + 2 ≤ 2 ^ 32 by omega)
  refine ⟨Store.ofConfig spacious, _, rfl, rfl, ?_, ?_, ?_⟩
  · unfold crowding
    rw [List.range_succ_eq_map, List.map_cons, issued_cons, issued_cons]
    exact List.mem_append_right _ (List.mem_append_left _ List.mem_cons_self)
  · rw [hregistry]
    exact not_same_of_crowded _
  · unfold Store.register
    rw [hregistry, register_crowded (by omega)]
    simp [EventType.dynamic, hall]

/-- A ring that someone kept shows its events after the store was brought down, and where all ids have
been given out the next one is not above them. -/
theorem kept_ring_shows_and_ids_run_over :
    (∃ (start : Store) (crew : Crew) (ring : Ring), Store.new? {} = .ok start ∧
      run { host := { store := start } }
        [(0, .init 2), (0, .log .default { message := "old" } {})] = crew ∧
      (crew.host.perform (crew.worker 0) .cleanup).answer = .done ∧
      ((crew.keeping "k" 0).step (0, .cleanup)).host.kept? "k" = some ring ∧
      ring.snapshotHeld.records.map Record.message = ["old"]) ∧
    ∃ (start : Store) (crew : Crew), Store.new? spacious = .ok start ∧
      run { host := { store := start } } (crowding (2 ^ 32 - 16)) = crew ∧
      (numbered 0, ⟨16⟩) ∈ issued { host := { store := start } } (crowding (2 ^ 32 - 16)) ∧
      (∀ entry ∈ crew.host.store.registry.entries,
        entry.2.same (numbered (2 ^ 32 - 16)) = false) ∧
      (crew.host.store.register (numbered (2 ^ 32 - 16))).1 = .ok ⟨0⟩ ∧ ¬ (16 : UInt32) < 0 := by
  refine ⟨⟨_, _, _, rfl, rfl, rfl, rfl, by decide +kernel⟩, ?_⟩
  obtain ⟨start, crew, hnew, hrun, hissued, hunknown, hnext⟩ :=
    ids_run_over (show 16 + (2 ^ 32 - 17 + 1) = 2 ^ 32 by decide)
  exact ⟨start, crew, hnew, hrun, hissued, hunknown, hnext, by decide⟩

end
end Crew
end EventLog
