import EventLog.Console.Session
import EventLog.Proofs.Output.Orderly

/-! What a session does to its store: it empties rings and does nothing else. A property of the store
that survives every reset therefore survives the session, however the session ends. -/
namespace EventLog.Session

theorem run_get (session : Session) : (get : Talk Session).run session = (.ok session, session) :=
  rfl

theorem run_emit (writer : Emit Unit) (session : Session) :
    (emit writer).run session =
      ((writer.run session.channel).1,
        { session with channel := (writer.run session.channel).2 }) := rfl

theorem run_reset (action : Store → ThreadId → Except Fault Unit × Store) (session : Session) :
    (reset action).run session =
      match action session.store session.me with
      | (.ok (), store) => (line "Reset has been completed.").run { session with store }
      | (.error (.error error), store) =>
        (line ("Reset failed: " ++ error.message)).run
          { session with store, failures := session.failures ++ [error] }
      | (.error .waits, store) => (.error .waits, { session with store }) := by
  unfold reset
  rw [run_bind_of_ok (run_get session)]
  cases action session.store session.me with
  | mk result store =>
    cases result with
    | ok _ => rfl
    | error fault =>
      cases fault with
      | error error => rfl
      | waits => rfl

/-- A property of the parts of a session that a whole has if its parts have it. A report is a part
together with the look at the session that it is made from, and so is a reset. -/
structure Compositional (Q : {α : Type} → Talk α → Prop) : Prop where
  pure : ∀ {α : Type} (a : α), Q (Pure.pure a : Talk α)
  bind : ∀ {α β : Type} {talk : Talk α} {next : α → Talk β},
    Q talk → (∀ a, Q (next a)) → Q (talk >>= next)
  say : ∀ text : String, Q (Session.emit (Emit.say text))
  readLine : Q Session.readLine
  showActive : Q Session.showActive
  select : ∀ answer : String, Q (Session.select answer)
  list : Q (MonadState.get >>= fun session => Session.emit (Report.list session.store))
  dumpActive : Q (MonadState.get >>= fun session =>
    Session.emit (Report.buffer session.store session.me session.active))
  dumpAll : Q (MonadState.get >>= fun session =>
    Session.emit (Report.all session.store session.me true true))
  resetActive : Q (MonadState.get >>= fun session =>
    Session.reset fun store me => store.reset me session.active)
  resetAll : Q (Session.reset Store.resetAll)

namespace Compositional

/-- It is enough that every output has the property, and every look at the session and every choice
of a buffer. -/
theorem of_parts {Q : {α : Type} → Talk α → Prop}
    (pure : ∀ {α : Type} (a : α), Q (Pure.pure a : Talk α))
    (bind : ∀ {α β : Type} {talk : Talk α} {next : α → Talk β},
      Q talk → (∀ a, Q (next a)) → Q (talk >>= next))
    (get : Q (MonadState.get : Talk Session)) (emit : ∀ writer, Q (Session.emit writer))
    (readLine : Q Session.readLine)
    (activate : ∀ active : Session → Nat,
      Q (modify fun session => { session with active := active session } : Talk PUnit))
    (reset : ∀ id, Q (Session.reset fun store me => store.reset me id))
    (resetAll : Q (Session.reset Store.resetAll)) : Compositional Q where
  pure := pure
  bind := bind
  say _ := emit _
  readLine := readLine
  showActive := bind get fun _ => emit _
  select answer := by
    unfold Session.select
    split
    · exact bind (activate _) fun _ => emit _
    · exact bind (activate _) fun _ => emit _
  list := bind get fun _ => emit _
  dumpActive := bind get fun _ => emit _
  dumpAll := bind get fun _ => emit _
  resetActive := bind get fun _ => reset _
  resetAll := resetAll

section
variable {Q : {α : Type} → Talk α → Prop} (hQ : Compositional Q) {β : Type}
include hQ

theorem line (text : String) : Q (Session.line text) := hQ.say _

theorem forM {l : List β} {talk : β → Talk PUnit} (h : ∀ b, Q (talk b)) : Q (l.forM talk) := by
  induction l with
  | nil => exact hQ.pure _
  | cons b l ih => exact hQ.bind (h b) fun _ => ih

theorem showMenu : Q Session.showMenu :=
  hQ.bind (hQ.forM fun _ => hQ.line _) fun _ => hQ.say _

theorem titled (title : String) {talk : Talk Unit} (h : Q talk) :
    Q (Session.header title >>= fun _ => talk) :=
  hQ.bind (hQ.line _) fun _ => h

theorem closed {talk : Talk Unit} (h : Q talk) : Q (talk >>= fun _ => Session.footer) :=
  hQ.bind h fun _ => hQ.line _

/-- What follows the answer to a question, if there was one. -/
theorem answered (answer : Option String) :
    Q (do
      match answer with
      | some answer => Session.select answer
      | none => Pure.pure ()
      Session.footer) := by
  cases answer with
  | none => exact hQ.line _
  | some answer => exact hQ.closed (hQ.select answer)

theorem dispatch (command : Command) : Q (Session.dispatch command) := by
  cases command with
  | listBuffers =>
    exact hQ.titled _ (hQ.bind hQ.showActive fun _ => hQ.closed hQ.list)
  | selectBuffer argument =>
    refine hQ.titled _ ?_
    cases argument with
    | some argument => exact hQ.bind (hQ.pure _) hQ.answered
    | none => exact hQ.bind (hQ.say _) fun _ => hQ.bind hQ.readLine hQ.answered
  | dumpActive =>
    exact hQ.titled _ (hQ.bind hQ.showActive fun _ => hQ.closed hQ.dumpActive)
  | dumpAll => exact hQ.titled _ (hQ.closed hQ.dumpAll)
  | resetActive =>
    exact hQ.titled _ (hQ.bind hQ.showActive fun _ => hQ.closed hQ.resetActive)
  | resetAll => exact hQ.titled _ (hQ.closed hQ.resetAll)
  | close | unknown => exact hQ.pure _

theorem rounds (n : Nat) : Q (Session.rounds n) := by
  induction n with
  | zero => exact hQ.pure _
  | succ n ih =>
    refine hQ.bind hQ.showMenu fun _ => hQ.bind hQ.readLine fun answer => ?_
    cases answer with
    | none => exact hQ.pure _
    | some line =>
      dsimp only
      split
      · exact hQ.pure _
      · exact hQ.bind (hQ.dispatch _) fun _ => ih

end
end Compositional

/-- A part of a session that keeps the thread and a property of the store. -/
def Keeps (P : Store → Prop) (me : ThreadId) {α : Type} (talk : Talk α) : Prop :=
  ∀ session : Session, session.me = me → P session.store →
    (talk.run session).2.me = me ∧ P (talk.run session).2.store

namespace Keeps

section
variable {P : Store → Prop} {me : ThreadId} {α β : Type}

theorem of_run {talk : Talk α}
    (h : ∀ session, (talk.run session).2.me = session.me ∧
      (talk.run session).2.store = session.store) : Keeps P me talk := by
  intro session hme hP
  obtain ⟨hthread, hstore⟩ := h session
  exact ⟨hthread.trans hme, hstore ▸ hP⟩

theorem bind {talk : Talk α} {next : α → Talk β} (h : Keeps P me talk)
    (hnext : ∀ a, Keeps P me (next a)) : Keeps P me (talk >>= next) := by
  intro session hme hP
  have hafter := h session hme hP
  rw [run_bind]
  cases htalk : talk.run session with
  | mk result after =>
    rw [htalk] at hafter
    cases result with
    | error halt => exact hafter
    | ok a => exact hnext a after hafter.1 hafter.2

/-- A reset keeps what its action keeps, also when it fails or waits. -/
theorem reset {action : Store → ThreadId → Except Fault Unit × Store}
    (haction : ∀ store, P store → P (action store me).2) :
    Keeps P me (Session.reset action) := by
  intro session hme hP
  have hstore : P (action session.store session.me).2 := hme ▸ haction session.store hP
  rw [run_reset]
  split
  · next heq =>
    rw [heq] at hstore
    exact ⟨hme, hstore⟩
  · next heq =>
    rw [heq] at hstore
    exact ⟨hme, hstore⟩
  · next heq =>
    rw [heq] at hstore
    exact ⟨hme, hstore⟩

theorem compositional (hreset : ∀ store id, P store → P (store.reset me id).2)
    (hresetAll : ∀ store, P store → P (store.resetAll me).2) :
    Compositional fun talk => Keeps P me talk :=
  .of_parts (fun _ => .of_run fun _ => ⟨rfl, rfl⟩) bind (.of_run fun _ => ⟨rfl, rfl⟩)
    (fun _ => .of_run fun _ => ⟨rfl, rfl⟩) (.of_run fun _ => ⟨rfl, rfl⟩)
    (fun _ => .of_run fun _ => ⟨rfl, rfl⟩) (fun id => reset fun store => hreset store id)
    (reset hresetAll)

end
end Keeps

/-- What every reset keeps, a session keeps. -/
theorem store_run {P : Store → Prop} {session : Session}
    (hreset : ∀ store id, P store → P (store.reset session.me id).2)
    (hresetAll : ∀ store, P store → P (store.resetAll session.me).2) (h : P session.store) :
    P session.run.2.store :=
  ((Keeps.compositional hreset hresetAll).rounds _ session rfl h).2

end EventLog.Session
