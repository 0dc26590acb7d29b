import EventLog.Proofs.Console.Session

/-! A session on a store next to a session on an image of the store. Where the reports on the image are
those on the store, and a reset of the image is the image of the reset, the two sessions say the same
and end with a store and its image, whatever they read and wherever their output ends. -/
namespace EventLog.Session

/-- The session, held on the image of its store. -/
def onto (image : Store → Store) (session : Session) : Session :=
  { session with store := image session.store }

/-- An image of the stores with a property, for one thread: what a session asks it is answered as by
the store itself. -/
structure Faithful (image : Store → Store) (P : Store → Prop) (me : ThreadId) : Prop where
  default : ∀ store, P store → (image store).table.default = store.table.default
  list : ∀ store, P store → Report.list (image store) = Report.list store
  buffer : ∀ store id, P store → Report.buffer (image store) me id = Report.buffer store me id
  all : ∀ store withStatus withEvents, P store →
    Report.all (image store) me withStatus withEvents = Report.all store me withStatus withEvents
  reset : ∀ store id, P store →
    (image store).reset me id = ((store.reset me id).1, image (store.reset me id).2)
  resetAll : ∀ store, P store →
    (image store).resetAll me = ((store.resetAll me).1, image (store.resetAll me).2)
  keeps_reset : ∀ store id, P store → P (store.reset me id).2
  keeps_resetAll : ∀ store, P store → P (store.resetAll me).2

/-- A part of a session that goes the same way on the image of the store. -/
def Mirrors (image : Store → Store) (P : Store → Prop) (me : ThreadId) {α : Type}
    (talk : Talk α) : Prop :=
  ∀ session : Session, session.me = me → P session.store →
    talk.run (session.onto image) = ((talk.run session).1, (talk.run session).2.onto image)

namespace Mirrors

section
variable {image : Store → Store} {P : Store → Prop} {me : ThreadId} {α β : Type}

theorem pure (a : α) : Mirrors image P me (Pure.pure a : Talk α) := fun _ _ _ => rfl

theorem emit (writer : Emit Unit) : Mirrors image P me (Session.emit writer) := fun _ _ _ => rfl

theorem readLine : Mirrors image P me Session.readLine := fun _ _ _ => rfl

theorem bind {talk : Talk α} {next : α → Talk β} (hkeeps : Keeps P me talk)
    (h : Mirrors image P me talk) (hnext : ∀ a, Mirrors image P me (next a)) :
    Mirrors image P me (talk >>= next) := by
  intro session hme hP
  have hafter := hkeeps session hme hP
  rw [run_bind, run_bind, h session hme hP]
  cases htalk : talk.run session with
  | mk result after =>
    rw [htalk] at hafter
    cases result with
    | error halt => rfl
    | ok a => exact hnext a after hafter.1 hafter.2

/-- A part that looks at the session first, and is the same for the image. -/
theorem get_bind {next : Session → Talk α} (hnext : ∀ session, Mirrors image P me (next session))
    (hsame : ∀ session : Session, session.me = me → P session.store →
      next (session.onto image) = next session) :
    Mirrors image P me (MonadState.get >>= next) := by
  intro session hme hP
  show (next (session.onto image)).run (session.onto image) = _
  rw [hsame session hme hP]
  exact hnext session session hme hP

theorem changed {change : Session → Session}
    (h : ∀ session : Session, session.me = me → P session.store →
      change (session.onto image) = (change session).onto image) :
    Mirrors image P me (modify change : Talk PUnit) := by
  intro session hme hP
  show (Except.ok PUnit.unit, change (session.onto image)) = _
  rw [h session hme hP]
  rfl

/-- A reset, where the image of what its action leaves is what it leaves of the image. -/
theorem reset {action : Store → ThreadId → Except Fault Unit × Store}
    (haction : ∀ store, P store →
      action (image store) me = ((action store me).1, image (action store me).2)) :
    Mirrors image P me (Session.reset action) := by
  intro session hme hP
  have hsame : action (session.onto image).store (session.onto image).me =
      ((action session.store session.me).1, image (action session.store session.me).2) := by
    rw [hme]
    show action (image session.store) session.me = _
    rw [hme]
    exact haction session.store hP
  rw [run_reset, run_reset, hsame]
  cases action session.store session.me with
  | mk result store =>
    cases result with
    | ok _ => rfl
    | error fault =>
      cases fault with
      | error error => rfl
      | waits => rfl

/-- A report, where the one on the image is the one on the store. -/
theorem report {report : Session → Emit Unit} (h : ∀ session : Session, session.me = me →
    P session.store → report (session.onto image) = report session) :
    Mirrors image P me (MonadState.get >>= fun session => Session.emit (report session)) := by
  refine get_bind (fun _ => emit _) ?_
  intro session hme hP
  rw [h session hme hP]

section
variable (hfaithful : Faithful image P me)
include hfaithful

theorem select (answer : String) : Mirrors image P me (Session.select answer) := by
  unfold Session.select
  split
  · exact bind (.of_run fun _ => ⟨rfl, rfl⟩) (changed fun _ _ _ => rfl) fun _ => emit _
  · refine bind (.of_run fun _ => ⟨rfl, rfl⟩) (changed ?_) fun _ => emit _
    intro session _ hP
    unfold onto fallback
    rw [hfaithful.default _ hP]

theorem dumpActive : Mirrors image P me (MonadState.get >>= fun session =>
    Session.emit (Report.buffer session.store session.me session.active)) := by
  refine report fun session hme hP => ?_
  show Report.buffer (image session.store) session.me session.active = _
  rw [hme]
  exact hfaithful.buffer session.store _ hP

theorem dumpAll : Mirrors image P me (MonadState.get >>= fun session =>
    Session.emit (Report.all session.store session.me true true)) := by
  refine report fun session hme hP => ?_
  show Report.all (image session.store) session.me true true = _
  rw [hme]
  exact hfaithful.all session.store true true hP

theorem compositional :
    Compositional fun talk => Keeps P me talk ∧ Mirrors image P me talk :=
  have hkeeps := Keeps.compositional hfaithful.keeps_reset hfaithful.keeps_resetAll
  { pure := fun a => ⟨hkeeps.pure a, pure a⟩
    bind := fun h hnext => ⟨hkeeps.bind h.1 fun a => (hnext a).1, bind h.1 h.2 fun a => (hnext a).2⟩
    say := fun text => ⟨hkeeps.say text, emit _⟩
    readLine := ⟨hkeeps.readLine, readLine⟩
    showActive := ⟨hkeeps.showActive, get_bind (fun _ => emit _) fun _ _ _ => rfl⟩
    select := fun answer => ⟨hkeeps.select answer, select hfaithful answer⟩
    list := ⟨hkeeps.list, report fun session _ hP => hfaithful.list session.store hP⟩
    dumpActive := ⟨hkeeps.dumpActive, dumpActive hfaithful⟩
    dumpAll := ⟨hkeeps.dumpAll, dumpAll hfaithful⟩
    resetActive := ⟨hkeeps.resetActive, get_bind
      (fun session => reset fun store => hfaithful.reset store session.active) fun _ _ _ => rfl⟩
    resetAll := ⟨hkeeps.resetAll, reset hfaithful.resetAll⟩ }

end
end
end Mirrors

/-- The session on the image of a store. -/
theorem run_onto {image : Store → Store} {P : Store → Prop} {session : Session}
    (hfaithful : Faithful image P session.me) (h : P session.store) :
    (session.onto image).run = (session.run.1, session.run.2.onto image) :=
  ((Mirrors.compositional hfaithful).rounds _).2 session rfl h

theorem start_onto {image : Store → Store} {store : Store}
    (hdefault : (image store).table.default = store.table.default) (me : ThreadId)
    (source : Source) (channel : Channel) :
    start (image store) me source channel = (start store me source channel).onto image := by
  unfold start onto fallback
  rw [hdefault]

end EventLog.Session
