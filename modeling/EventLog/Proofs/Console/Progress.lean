import EventLog.Proofs.Console.Session
import EventLog.Proofs.Report.Orderly
import EventLog.Proofs.Store.Progress

/-! Output without waiting. With one thread at work, no report of its store comes to wait and no session
in it, whatever is shown and wherever input and output end. -/
namespace EventLog

namespace Emit

/-- A writer that does not come to wait. -/
def Unhindered {α : Type} (writer : Emit α) : Prop :=
  ∀ channel, (writer.run channel).1 ≠ .error .waits

namespace Unhindered

section
variable {α β : Type} {first : Emit α} {next : α → Emit β}

theorem pure (a : α) : (Pure.pure a : Emit α).Unhindered := fun _ => nofun

theorem throw {halt : Halt} (h : halt ≠ .waits) :
    (MonadExcept.throw halt : Emit α).Unhindered :=
  fun _ heq => h (Except.error.inj heq)

theorem countUse (key : Nat) : (Emit.countUse key).Unhindered := fun _ => nofun

theorem put (bytes : Bytes) : (Emit.put bytes).Unhindered := by
  intro channel
  rw [run_put]
  dsimp only
  split
  · exact nofun
  · exact nofun

theorem bind (hfirst : first.Unhindered) (hnext : ∀ a, (next a).Unhindered) :
    (first >>= next).Unhindered := by
  intro channel
  have hresult := hfirst channel
  rw [run_bind]
  cases hrun : first.run channel with
  | mk result middle =>
    rw [hrun] at hresult
    cases result with
    | error halt => simpa using hresult
    | ok a => exact hnext a middle

theorem compositional : Compositional fun writer => writer.Unhindered where
  pure := pure
  line _ := put _
  bind := bind

/-- A renderer has no lock to wait for. -/
theorem render (payload : StoredPayload) : payload.render.Unhindered := by
  refine compositional.payload put countUse (fun failure => throw ?_) payload
  cases failure with
  | io message => exact nofun
  | panic => exact nofun

theorem event (record : Record) : (Report.event record).Unhindered :=
  compositional.event (fun _ => throw nofun) fun payload _ _ => render payload

theorem halt_transcript {writer : Emit Unit} (h : writer.Unhindered) (room : Option Nat)
    (uses : Uses) : (writer.transcript room uses).1.halt ≠ some .waits := by
  have hresult := h { sink := { room }, uses }
  unfold transcript
  cases hrun : writer.run { sink := { room }, uses } with
  | mk result after =>
    rw [hrun] at hresult
    cases result with
    | ok _ => exact nofun
    | error halt => simpa using hresult

end
end Unhindered
end Emit

namespace Store.Phase

open Emit

section
variable {store : Store} {me : ThreadId} {guard : Option Guard}

theorem unhindered_buffer (h : store.Phase me guard) (id : Nat) :
    (Report.buffer store me id).Unhindered :=
  Unhindered.compositional.buffer (fun _ _ _ record _ => .event record)
    (fun other hwaits => absurd hwaits (h.snapshot_ne_waits other)) id

theorem unhindered_all (h : store.Phase me guard) (withStatus withEvents : Bool) :
    (Report.all store me withStatus withEvents).Unhindered :=
  Unhindered.compositional.all (fun _ _ _ record _ => .event record)
    (fun other hwaits => absurd hwaits (h.snapshot_ne_waits other)) withStatus withEvents

end
end Store.Phase

namespace Session

/-- A part of a session that does not come to wait in a store with the property. -/
def Unhindered (P : Store → Prop) (me : ThreadId) {α : Type} (talk : Talk α) : Prop :=
  ∀ session : Session, session.me = me → P session.store →
    (talk.run session).1 ≠ .error .waits

namespace Unhindered

section
variable {P : Store → Prop} {me : ThreadId} {α β : Type}

theorem emit {writer : Emit Unit} (h : writer.Unhindered) :
    Unhindered P me (Session.emit writer) := fun session _ _ => h session.channel

theorem bind {talk : Talk α} {next : α → Talk β} (hkeeps : Keeps P me talk)
    (h : Unhindered P me talk) (hnext : ∀ a, Unhindered P me (next a)) :
    Unhindered P me (talk >>= next) := by
  intro session hme hP
  have hresult := h session hme hP
  have hafter := hkeeps session hme hP
  rw [run_bind]
  cases htalk : talk.run session with
  | mk result after =>
    rw [htalk] at hresult hafter
    cases result with
    | error halt => simpa using hresult
    | ok a => exact hnext a after hafter.1 hafter.2

/-- A part that looks at the session first. -/
theorem get_bind {next : Session → Talk α} (hnext : ∀ session : Session, session.me = me →
    P session.store → Unhindered P me (next session)) :
    Unhindered P me (MonadState.get >>= next) :=
  fun session hme hP => hnext session hme hP session hme hP

theorem readLine : Unhindered P me Session.readLine := by
  intro session _ _
  show (session.source.readLine).1 ≠ .error .waits
  unfold Source.readLine
  dsimp only
  split
  · exact nofun
  · split
    · split
      · exact nofun
      · exact nofun
    · split
      · exact nofun
      · exact nofun

theorem select (answer : String) : Unhindered P me (Session.select answer) := by
  unfold Session.select
  split
  · exact bind (.of_run fun _ => ⟨rfl, rfl⟩) (fun _ _ _ => nofun) fun _ => emit (.put _)
  · exact bind (.of_run fun _ => ⟨rfl, rfl⟩) (fun _ _ _ => nofun) fun _ => emit (.put _)

theorem reset {action : Store → ThreadId → Except Fault Unit × Store}
    (haction : ∀ store, P store → (action store me).1 ≠ .error .waits) :
    Unhindered P me (Session.reset action) := by
  intro session hme hP
  have hresult := haction session.store hP
  rw [run_reset, hme]
  split
  · exact Emit.Unhindered.put _ _
  · exact Emit.Unhindered.put _ _
  · next heq =>
    rw [heq] at hresult
    exact absurd rfl hresult

theorem compositional {guard : Option Guard} :
    Compositional fun talk => Keeps (fun store => store.Phase me guard) me talk ∧
      Unhindered (fun store => store.Phase me guard) me talk :=
  have hkeeps : Compositional fun talk => Keeps (fun store => store.Phase me guard) me talk :=
    Keeps.compositional (fun _ id h => h.reset id) fun _ h => h.resetAll
  { pure := fun a => ⟨hkeeps.pure a, fun _ _ _ => nofun⟩
    bind := fun h hnext => ⟨hkeeps.bind h.1 fun a => (hnext a).1, bind h.1 h.2 fun a => (hnext a).2⟩
    say := fun text => ⟨hkeeps.say text, emit (.put _)⟩
    readLine := ⟨hkeeps.readLine, readLine⟩
    showActive := ⟨hkeeps.showActive, get_bind fun _ _ _ => emit (.put _)⟩
    select := fun answer => ⟨hkeeps.select answer, select answer⟩
    list := ⟨hkeeps.list, get_bind fun _ _ _ => emit (Emit.Unhindered.compositional.list _)⟩
    dumpActive := ⟨hkeeps.dumpActive, get_bind fun _ hme h => emit ((hme ▸ h).unhindered_buffer _)⟩
    dumpAll := ⟨hkeeps.dumpAll, get_bind fun _ hme h => emit ((hme ▸ h).unhindered_all _ _)⟩
    resetActive := ⟨hkeeps.resetActive, get_bind fun session _ _ =>
      reset fun _ h => h.reset_ne_waits session.active⟩
    resetAll := ⟨hkeeps.resetAll, reset fun _ h => h.resetAll_ne_waits⟩ }

end
end Unhindered

/-- A session in a store that its thread alone works with. -/
theorem run_ne_waits {session : Session} {guard : Option Guard}
    (h : session.store.Phase session.me guard) : session.run.1 ≠ .error .waits :=
  (Unhindered.compositional.rounds _).2 session rfl h

end Session
end EventLog
