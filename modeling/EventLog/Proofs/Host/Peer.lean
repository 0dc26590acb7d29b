import EventLog.Proofs.Host.Console
import EventLog.Proofs.Output.Limited

/-! Sessions whose peer stops taking output. The peer has the beginning of what it would have had, and
the session goes as far as its output does: a reset is done where all that is said before it has been
taken, and nothing is done after that. -/
namespace EventLog

/-- Why a session has ended, if not by itself. -/
def Halt.of? : Except Halt Unit → Option Halt
  | .ok () => none
  | .error halt => some halt

theorem Halt.of?_result (response : Response) : Halt.of? response.result = response.halt := by
  unfold Response.result
  cases response.halt with
  | none => rfl
  | some halt => rfl

/-- The error of the sink is seen where there is more to say than it takes, and where the writer has
ended with this error by itself. -/
theorem Transcript.halt_cutAt_eq_full {whole : Transcript} {limit : Nat} :
    (whole.cutAt limit).halt = some Sink.full ↔
      limit < whole.bytes.length ∨ whole.halt = some Sink.full := by
  unfold cutAt
  by_cases hfits : whole.bytes.length ≤ limit
  · simp [hfits]
  · simp [hfits, Nat.lt_of_not_le hfits]

namespace Host

section
variable {host : Host} {worker : Worker} {source : Source} {room : Option Nat}
  {result : Except Halt Unit}

/-- A session never takes a buffer away. -/
theorem quiet_session {after : Session}
    (hrun : (Session.start host.store worker.id source { sink := { room }, uses := host.uses }).run =
      (result, after)) : host.store.Quiet after.store := by
  have hquiet : host.store.Quiet (Session.start host.store worker.id source
      { sink := { room }, uses := host.uses }).run.2.store :=
    Session.store_run (P := fun store => host.store.Quiet store)
      (fun store id hstore => hstore.trans (.reset store _ id))
      (fun store hstore => hstore.trans (.resetAll store _)) (.refl _)
  rwa [hrun] at hquiet

/-- What is left of a session that ends as a console in front of a sink. -/
theorem session_of_run {console : Console} {sink : Sink} {left : Bytes}
    (hrun : (Session.start host.store worker.id source { sink := { room }, uses := host.uses }).run =
      (result, console.facing sink left)) :
    host.session worker source room =
      { answer := .session { bytes := sink.bytes, halt := Halt.of? result }
          (Session.fallback host.store) console.active
        notices := console.failures.map .resetFailed
        host := { host with store := console.store, uses := console.uses }
        worker } := by
  have hstore : host.withStore (console.facing sink left).store = _ :=
    withStore_of_quiet (quiet_session hrun)
  unfold session closed
  dsimp only
  rw [hrun]
  dsimp only
  rw [hstore]
  cases result <;> rfl

section
variable {me : ThreadId} {input left : Bytes} {deeds : List Deed} {next : Console}
  (hid : worker.id = me) (hplays : Session.Plays (Session.rounds (input.length + 1))
    (Console.start host.store me host.uses) input deeds result next left)
include hid

theorem run_start (room : Option Nat) :
    (Session.start host.store worker.id { rest := input } { sink := { room }, uses := host.uses }).run =
      (Session.rounds (input.length + 1)).run
        ((Console.start host.store me host.uses).facing { room } input) := by
  rw [hid]
  rfl

include hplays

/-- A session that plays its deeds to a peer that takes all. -/
theorem session_of_endless :
    host.session worker { rest := input } none =
      { answer := .session { bytes := Deed.text deeds, halt := Halt.of? result }
          (Session.fallback host.store) next.active
        notices := next.failures.map .resetFailed
        host :=
          { host with
            store := (Deed.whole deeds).foldl Store.cleared host.store
            uses := next.uses }
        worker } := by
  have hput : Sink.put { room := none } (Deed.text deeds) = (true, _) := Sink.put_of_endless rfl _
  have hstore : next.store = (Deed.whole deeds).foldl Store.cleared host.store := hplays.store
  rw [← hstore, session_of_run ((run_start hid none).trans (hplays.fits hput))]
  simp [Sink.bytes]

/-- The same session for a peer that takes a number of bytes. -/
theorem session_of_limit (limit : Nat) :
    ∃ active uses notices, host.session worker { rest := input } (some limit) =
      { answer := .session
          (Transcript.cutAt { bytes := Deed.text deeds, halt := Halt.of? result } limit)
          (Session.fallback host.store) active
        notices
        host :=
          { host with
            store := (Deed.within limit deeds).foldl Store.cleared host.store
            uses }
        worker } := by
  obtain ⟨after, hafter, hput⟩ := Sink.put_of_limit limit (Deed.text deeds)
  unfold Transcript.cutAt
  dsimp only
  rw [← hafter]
  by_cases hfits : (Deed.text deeds).length ≤ limit
  · rw [decide_eq_true hfits] at hput
    have hstore : next.store = (Deed.whole deeds).foldl Store.cleared host.store := hplays.store
    rw [if_pos hfits, Deed.within_of_length_le hfits, ← hstore]
    exact ⟨_, _, _, session_of_run ((run_start hid (some limit)).trans (hplays.fits hput))⟩
  · rw [decide_eq_false hfits] at hput
    obtain ⟨stopped, unread, hstopped, hstore⟩ := hplays.cut hput rfl
    have hwithin : stopped.store = (Deed.within limit deeds).foldl Store.cleared host.store := hstore
    rw [if_neg hfits, ← hwithin]
    exact ⟨_, _, _, session_of_run ((run_start hid (some limit)).trans hstopped)⟩

end
end
end Host

namespace Crew

section
variable {crew : Crew}

/-- Whatever any threads did before, a session whose peer takes no more than a number of bytes says the
beginning of what it would say to a peer that takes all, and ends with the error of the sink where that
is not all. It empties the rings that it would empty as long as no more than that number of bytes is
said before, which is a beginning of all that it would empty, and changes nothing else. -/
theorem cut_session_does_beginning {config : Config} {start : Store}
    {turns : List (ThreadId × Action)} {me : ThreadId} {input : Bytes} {deeds : List Deed}
    (hnew : Store.new? config = .ok start)
    (hrun : run { host := { store := start } } turns = crew)
    (hothers : ∀ other, other ≠ me → (crew.worker other).guard = none)
    (hscript : (Console.start crew.host.store me crew.host.uses).script
      (Instruction.ofLines (Source.lines input)) = deeds) :
    ∃ whole active uses notices,
      crew.host.perform (crew.worker me) (.session { rest := input } none) =
        { answer := .session whole (Session.fallback crew.host.store) active
          notices
          host :=
            { crew.host with
              store := (Deed.whole deeds).foldl Store.cleared crew.host.store
              uses }
          worker := crew.worker me } ∧
      whole.bytes = Deed.text deeds ∧
      ((∀ entry ∈ crew.host.store.registry.entries, entry.2.Sure) →
        (∀ id ring, crew.host.store.table.get? id = some ring →
          ∀ record ∈ ring.snapshotHeld.records, record.time.Supported) →
        whole.halt = none) ∧
      ∀ limit, ∃ active uses notices,
        crew.host.perform (crew.worker me) (.session { rest := input } (some limit)) =
          { answer := .session (whole.cutAt limit) (Session.fallback crew.host.store) active
            notices
            host :=
              { crew.host with
                store := (Deed.within limit deeds).foldl Store.cleared crew.host.store
                uses }
            worker := crew.worker me } ∧
        ((whole.cutAt limit).halt = some Sink.full ↔
          limit < whole.bytes.length ∨ whole.halt = some Sink.full) ∧
        Deed.within limit deeds <+: Deed.whole deeds := by
  obtain ⟨-, rfl⟩ := Store.eq_ofConfig_of_new? hnew
  obtain ⟨hsound, hbacked⟩ := run_induction (P := fun crew => crew.host.store.Backed)
    (fun _ turn hsound h => backed_step hsound h turn) (sound_start hnew) (.ofConfig config) turns
  rw [hrun] at hsound hbacked
  have hphase : (Console.start crew.host.store me crew.host.uses).store.Phase
      (Console.start crew.host.store me crew.host.uses).me (crew.worker me).guard :=
    hsound.phase_of_alone hothers
  obtain ⟨left, hplays⟩ := Session.Plays.run hphase input
  rw [hscript] at hplays
  have hwhole := Host.session_of_endless (hsound.id_worker me) hplays
  refine ⟨_, _, _, _, hwhole, rfl, ?_, ?_⟩
  · intro hsure htime
    exact (Halt.of?_result _).trans (Console.halt_interpret hphase (hbacked.legible hsure htime) _)
  · intro limit
    obtain ⟨active, uses, notices, hsession⟩ :=
      Host.session_of_limit (hsound.id_worker me) hplays limit
    exact ⟨active, uses, notices, hsession, Transcript.halt_cutAt_eq_full,
      Deed.within_prefix limit deeds⟩

/-- A peer that is one byte short of what stands before the second of two resets sees only the first
one done, and with that byte it sees both. -/
theorem cut_session_does_beginning_betweenResets :
    ∃ start crew, Store.new? {} = .ok start ∧
      run { host := { store := start } } filledTwice = crew ∧
      (crew.host.perform (crew.worker 1)
        (.session { rest := Utf8.encode "5\n6\n" } (some 923))).host.store =
          crew.host.store.cleared (.ring 0) ∧
      (crew.host.perform (crew.worker 1)
        (.session { rest := Utf8.encode "5\n6\n" } (some 924))).host.store =
          (crew.host.store.cleared (.ring 0)).cleared .all := by
  have hnew : Store.new? {} = .ok (Store.ofConfig {}) := rfl
  obtain ⟨deeds, hscript⟩ : ∃ deeds, (Console.start (run
      { host := { store := Store.ofConfig {} } } filledTwice).host.store 1
        (run { host := { store := Store.ofConfig {} } } filledTwice).host.uses).script
        (Instruction.ofLines (Source.lines (Utf8.encode "5\n6\n"))) = deeds := ⟨_, rfl⟩
  have hclearings : Deed.clearings deeds = [(418, .ring 0), (924, .all)] := by
    rw [← hscript]
    decide +kernel
  have hshort : Deed.within 923 deeds = [.ring 0] := by simp [Deed.within, hclearings]
  have hlong : Deed.within 924 deeds = [.ring 0, .all] := by simp [Deed.within, hclearings]
  obtain ⟨_, _, _, _, -, -, -, hcut⟩ := cut_session_does_beginning hnew rfl
    (fun other _ => guard_filledTwice other) hscript
  refine ⟨_, _, hnew, rfl, ?_, ?_⟩
  · obtain ⟨_, _, _, hsession, -⟩ := hcut 923
    rw [hsession, hshort]
    rfl
  · obtain ⟨_, _, _, hsession, -⟩ := hcut 924
    rw [hsession, hlong]
    rfl

end
end Crew
end EventLog
