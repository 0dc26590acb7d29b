import EventLog.Proofs.Console.Deed
import EventLog.Proofs.Console.Session
import EventLog.Proofs.Report.Legible
import EventLog.Proofs.Report.Orderly

/-! A session does the deeds of its console. Between two rounds it is a console in front of a sink, with
an input before it; a round takes the next instruction from the input and obeys it. A sink that takes
all that is said sees the session to its end; a sink that refuses stops it, and what comes later is not
done. -/
namespace EventLog

def Response.result (response : Response) : Except Halt Unit :=
  match response.halt with
  | none => .ok ()
  | some halt => .error halt

theorem Response.result_of_none {response : Response} (h : response.halt = none) :
    response.result = .ok () := by
  rw [result, h]

theorem Response.result_of_some {response : Response} {halt : Halt}
    (h : response.halt = some halt) : response.result = .error halt := by
  rw [result, h]

/-- Only a sink with a limit refuses, and only what goes beyond the limit. -/
theorem Sink.room_of_refused {sink after : Sink} {bytes : Bytes}
    (h : sink.put bytes = (false, after)) : ∃ limit, sink.room = some limit ∧ limit < bytes.length := by
  obtain ⟨room, taken⟩ := sink
  cases room with
  | none => simp [put] at h
  | some limit =>
    refine ⟨limit, rfl, ?_⟩
    by_contra hfits
    simp [put, Nat.le_of_not_lt hfits] at h

/-- What a sink has taken, it has no more room for. -/
theorem Sink.room_of_taken {sink after : Sink} {bytes : Bytes} {limit : Nat}
    (h : sink.put bytes = (true, after)) (hroom : sink.room = some limit) :
    bytes.length ≤ limit ∧ after.room = some (limit - bytes.length) := by
  unfold put at h
  rw [hroom] at h
  dsimp only at h
  split at h
  · next hfits =>
    cases h
    exact ⟨hfits, rfl⟩
  · cases h

namespace Console

/-- The session that has said the text, with the rest of its input. -/
def session (console : Console) (text rest : Bytes) : Session :=
  { store := console.store
    me := console.me
    active := console.active
    source := { rest }
    channel := { sink := { taken := text.toArray }, uses := console.uses }
    failures := console.failures }

/-- The session in front of a sink, with the rest of its input. -/
def facing (console : Console) (sink : Sink) (rest : Bytes) : Session :=
  { console.session [] rest with channel := { sink, uses := console.uses } }

end Console

namespace Session

/-- A part of a session that does these deeds. Where the sink takes all of their text, the part comes to
its end; where it refuses, the part stops with what has been emptied by then. -/
structure Plays {α : Type} (talk : Talk α) (console : Console) (rest : Bytes) (deeds : List Deed)
    (result : Except Halt α) (next : Console) (left : Bytes) : Prop where
  store : next.store = (Deed.whole deeds).foldl Store.cleared console.store
  fits : ∀ {sink after : Sink}, sink.put (Deed.text deeds) = (true, after) →
    talk.run (console.facing sink rest) = (result, next.facing after left)
  cut : ∀ {sink after : Sink} {limit : Nat}, sink.put (Deed.text deeds) = (false, after) →
    sink.room = some limit → ∃ (stopped : Console) (unread : Bytes),
      talk.run (console.facing sink rest) = (.error Sink.full, stopped.facing after unread) ∧
      stopped.store = (Deed.within limit deeds).foldl Store.cleared console.store

namespace Plays

section
variable {α β : Type} {console middle next : Console} {rest unread left : Bytes}
  {deeds later : List Deed}

/-- Only the text counts and what is emptied where in it. -/
theorem congr {talk : Talk α} {result : Except Halt α} {others : List Deed}
    (h : Plays talk console rest deeds result next left)
    (htext : Deed.text others = Deed.text deeds)
    (hclearings : Deed.clearings others = Deed.clearings deeds) :
    Plays talk console rest others result next left := by
  have hwhole : Deed.whole others = Deed.whole deeds := by rw [Deed.whole, hclearings, Deed.whole]
  have hwithin (limit : Nat) : Deed.within limit others = Deed.within limit deeds := by
    rw [Deed.within, hclearings, Deed.within]
  constructor
  · rw [hwhole]
    exact h.store
  · intro sink after hput
    rw [htext] at hput
    exact h.fits hput
  · intro sink after limit hput hroom
    rw [htext] at hput
    rw [hwithin]
    exact h.cut hput hroom

/-- Where nothing is emptied, the text is said as if at once. -/
theorem said {talk : Talk α} {result : Except Halt α} {bytes : Bytes}
    (h : Plays talk console rest deeds result next left) (htext : bytes = Deed.text deeds)
    (hclearings : Deed.clearings deeds = []) :
    Plays talk console rest [.say bytes] result next left := by
  refine h.congr ?_ ?_
  · simp [Deed.text, htext]
  · simp [Deed.clearings, hclearings]

/-- A part that says nothing and empties nothing. -/
theorem silent {talk : Talk α} {result : Except Halt α} (hstore : next.store = console.store)
    (h : ∀ sink, talk.run (console.facing sink rest) = (result, next.facing sink left)) :
    Plays talk console rest [] result next left := by
  constructor
  · exact hstore
  · intro sink after hput
    rw [Deed.text, Sink.put_nil] at hput
    cases hput
    exact h sink
  · intro sink after limit hput _
    rw [Deed.text, Sink.put_nil] at hput
    cases hput

theorem pure (a : α) : Plays (Pure.pure a : Talk α) console rest [] (.ok a) console rest :=
  silent rfl fun _ => rfl

theorem readLine {line : Option String}
    (hread : Source.readLine { rest } = (.ok line, { rest := left })) :
    Plays Session.readLine console rest [] (.ok line) console left := by
  refine silent rfl ?_
  intro sink
  show ((Source.readLine { rest }).1,
    { console.facing sink rest with source := (Source.readLine { rest }).2 }) = _
  rw [hread]
  rfl

theorem activate {active : Session → Nat} {id : Nat}
    (h : ∀ sink, active (console.facing sink rest) = id) :
    Plays (modify fun session => { session with active := active session } : Talk PUnit) console rest
      [] (.ok ()) { console with active := id } rest := by
  refine silent rfl ?_
  intro sink
  rw [← h sink]
  rfl

/-- A part that looks at the session first, and goes on in the same way on every sink. -/
theorem get_bind {next' : Session → Talk α} {result : Except Halt α} (talk : Talk α)
    (hsame : ∀ sink, next' (console.facing sink rest) = talk)
    (h : Plays talk console rest deeds result next left) :
    Plays (MonadState.get >>= next') console rest deeds result next left := by
  have hrun (sink : Sink) : (MonadState.get >>= next').run (console.facing sink rest) =
      talk.run (console.facing sink rest) := by
    rw [run_bind_of_ok (run_get _), hsame]
  constructor
  · exact h.store
  · intro sink after hput
    rw [hrun]
    exact h.fits hput
  · intro sink after limit hput hroom
    rw [hrun]
    exact h.cut hput hroom

theorem emit {writer : Emit Unit} (h : writer.Orderly) :
    Plays (Session.emit writer) console rest [.say (writer.text console.uses)]
      (writer.run { uses := console.uses }).1
      { console with uses := (writer.run { uses := console.uses }).2.uses } rest := by
  have htext : Deed.text [.say (writer.text console.uses)] = writer.text console.uses :=
    List.append_nil _
  constructor
  · rfl
  · intro sink after hput
    rw [htext] at hput
    rw [run_emit]
    show ((writer.run { sink, uses := console.uses }).1,
      { console.facing sink rest with
        channel := (writer.run { sink, uses := console.uses }).2 }) = _
    rw [h.fits hput]
    rfl
  · intro sink after limit hput hroom
    rw [htext] at hput
    obtain ⟨uses, hcut⟩ := h.cut hput
    refine ⟨{ console with uses }, rest, ?_, rfl⟩
    rw [run_emit]
    show ((writer.run { sink, uses := console.uses }).1,
      { console.facing sink rest with
        channel := (writer.run { sink, uses := console.uses }).2 }) = _
    rw [hcut]
    rfl

theorem put (bytes : Bytes) :
    Plays (Session.emit (Emit.put bytes)) console rest [.say bytes] (.ok ()) console rest := by
  have h : Plays _ console rest _ _ _ rest := emit (.put bytes)
  rw [Emit.text_put, Emit.run_put, Sink.put_of_endless rfl] at h
  exact h

theorem say (said : String) : Plays (Session.emit (Emit.say said)) console rest
    [.say (Utf8.encode said)] (.ok ()) console rest :=
  put _

theorem line (text : String) : Plays (Session.line text) console rest
    [.say (Console.lineText text)] (.ok ()) console rest :=
  put _

/-- Two parts in turn: the deeds of the first, and then those of the second. -/
theorem bind {first : Talk α} {second : α → Talk β} {a : α} {result : Except Halt β}
    (hfirst : Plays first console rest deeds (.ok a) middle unread)
    (hsecond : Plays (second a) middle unread later result next left) :
    Plays (first >>= second) console rest (deeds ++ later) result next left := by
  constructor
  · rw [hsecond.store, hfirst.store, Deed.whole_append, List.foldl_append]
  · intro sink after hput
    rw [Deed.text_append, Sink.put_append] at hput
    cases hmiddle : sink.put (Deed.text deeds) with
    | mk taken between =>
      rw [hmiddle] at hput
      cases taken with
      | false => cases hput
      | true =>
        rw [run_bind_of_ok (hfirst.fits hmiddle)]
        exact hsecond.fits hput
  · intro sink after limit hput hroom
    rw [Deed.text_append, Sink.put_append] at hput
    -- The sink refuses in the first text, and the second part is not begun, or in the second text.
    cases hmiddle : sink.put (Deed.text deeds) with
    | mk taken between =>
      rw [hmiddle] at hput
      cases taken with
      | false =>
        cases hput
        obtain ⟨_, hlimit, hlt⟩ := Sink.room_of_refused hmiddle
        cases hroom.symm.trans hlimit
        obtain ⟨stopped, remaining, hrun, hstore⟩ := hfirst.cut hmiddle hroom
        refine ⟨stopped, remaining, ?_, ?_⟩
        · rw [run_bind, hrun]
        · rw [Deed.within_append_of_lt hlt]
          exact hstore
      | true =>
        obtain ⟨hle, hbetween⟩ := Sink.room_of_taken hmiddle hroom
        obtain ⟨stopped, remaining, hrun, hstore⟩ := hsecond.cut hput hbetween
        refine ⟨stopped, remaining, ?_, ?_⟩
        · rw [run_bind_of_ok (hfirst.fits hmiddle)]
          exact hrun
        · rw [hstore, hfirst.store, Deed.within_append_of_le hle, List.foldl_append]

theorem andThen {first : Talk α} {second : Talk β} {a : α} {result : Except Halt β}
    (hfirst : Plays first console rest deeds (.ok a) middle unread)
    (hsecond : Plays second middle unread later result next left) :
    Plays (first >>= fun _ => second) console rest (deeds ++ later) result next left :=
  bind hfirst hsecond

/-- A part that breaks off by itself is the last. -/
theorem bind_error {first : Talk α} {second : α → Talk β} {halt : Halt}
    (hfirst : Plays first console rest deeds (.error halt) next left) :
    Plays (first >>= second) console rest deeds (.error halt) next left := by
  constructor
  · exact hfirst.store
  · intro sink after hput
    rw [run_bind, hfirst.fits hput]
  · intro sink after limit hput hroom
    obtain ⟨stopped, remaining, hrun, hstore⟩ := hfirst.cut hput hroom
    refine ⟨stopped, remaining, ?_, hstore⟩
    rw [run_bind, hrun]

theorem header (title : String) : Plays (Session.header title) console rest
    [.say (Console.head title)] (.ok ()) console rest :=
  put _

theorem footer : Plays Session.footer console rest [.say Console.foot] (.ok ()) console rest :=
  put _

theorem showActive :
    Plays Session.showActive console rest [.say console.activeText] (.ok ()) console rest := by
  unfold Session.showActive
  exact get_bind _ (fun _ => rfl) (line _)

theorem lines (texts : List String) : Plays (texts.forM Session.line) console rest
    [.say (texts.flatMap Console.lineText)] (.ok ()) console rest := by
  induction texts with
  | nil => exact (pure ()).said rfl rfl
  | cons text texts ih => exact (andThen (line text) ih).said (by simp [Deed.text]) rfl

theorem showMenu :
    Plays Session.showMenu console rest [.say Console.menu] (.ok ()) console rest := by
  refine (andThen (lines _) (say _)).said ?_ rfl
  simp [Deed.text, Console.menu]

/-- A section that shows a report, which is the same on every sink. -/
theorem present (reporting : Session → Emit Unit) {report : Emit Unit}
    (hsame : ∀ sink, reporting (console.facing sink rest) = report) (h : report.Orderly)
    (above : Bytes) :
    Plays (do
        Session.emit (reporting (← MonadState.get))
        Session.footer : Talk Unit) console rest
      [.say (console.present [] report).text] (console.present above report).result
      (console.present above report).console rest := by
  have hreport : Plays (Session.emit report) console rest _ _ _ rest := emit h
  have htext : (report.run { uses := console.uses }).2.sink.bytes = report.text console.uses := rfl
  refine get_bind (Session.emit report >>= fun _ => Session.footer) ?_ ?_
  · intro sink
    rw [hsame]
  unfold Console.present Emit.transcript
  cases hrun : report.run { uses := console.uses } with
  | mk result channel =>
    rw [hrun] at hreport htext
    cases result with
    | ok _ =>
      refine (andThen hreport footer).said ?_ rfl
      simp [Deed.text, htext]
    | error halt =>
      refine (bind_error hreport).said ?_ rfl
      simp [Deed.text, htext]

theorem select (choice : String) :
    Plays (Session.select choice) console rest [.say (Console.selectText (some choice))] (.ok ())
      { console with
        active := (Command.bufferId? choice).getD (Session.fallback console.store) } rest := by
  unfold Session.select Console.selectText
  dsimp only
  cases Command.bufferId? choice with
  | some id => exact andThen (activate fun _ => rfl) (line _)
  | none => exact andThen (activate fun _ => rfl) (line _)

/-- A part that empties rings and goes on as another part does then. -/
theorem clear {talk other : Talk α} {result : Except Halt α} {clearing : Clearing}
    (hstore : middle.store = console.store.cleared clearing)
    (hrun : ∀ sink, talk.run (console.facing sink rest) = other.run (middle.facing sink rest))
    (h : Plays other middle rest deeds result next left) :
    Plays talk console rest (.clear clearing :: deeds) result next left := by
  constructor
  · rw [h.store, hstore]
    rfl
  · intro sink after hput
    rw [hrun]
    exact h.fits hput
  · intro sink after limit hput hroom
    obtain ⟨stopped, remaining, hstopped, heq⟩ := h.cut hput hroom
    refine ⟨stopped, remaining, (hrun sink).trans hstopped, ?_⟩
    rw [heq, hstore, Deed.within_clear, List.foldl_cons]

/-- A section that empties rings, whether it is refused or not. -/
theorem emptying {guard : Option Guard} (h : console.store.Phase console.me guard)
    (clearing : Clearing) (above : Bytes) :
    Plays (Session.reset clearing.perform >>= fun _ => Session.footer) console rest
      (console.emptying clearing) (.ok ()) (console.clear above clearing).console rest := by
  have hreset : Plays (Session.reset clearing.perform) console rest
      [.clear clearing, .say (console.outcomeText clearing)] (.ok ())
      (console.clear above clearing).console rest := by
    refine clear rfl ?_ (put _)
    intro sink
    have hclearing : clearing.perform (console.facing sink rest).store
        (console.facing sink rest).me = _ := h.clearing_eq clearing
    rw [run_reset, hclearing]
    unfold Console.outcomeText Console.clear
    cases console.store.refusal? clearing with
    | none =>
      simp only [Option.elim, Option.toList_none, List.append_nil]
      rfl
    | some error => rfl
  exact andThen hreset footer

/-- The end of a selection, with the choice that was made. -/
theorem choice (choice : Option String) :
    Plays (do
        match choice with
        | some answer => Session.select answer
        | none => Pure.pure ()
        Session.footer : Talk Unit) console rest [.say (Console.selectText choice ++ Console.foot)]
      (.ok ())
      { console with
        active := choice.elim console.active fun choice =>
          (Command.bufferId? choice).getD (Session.fallback console.store) } rest := by
  cases choice with
  | none =>
    rw [Console.selectText, List.nil_append]
    exact footer
  | some answer => exact (andThen (select answer) footer).said (by simp [Deed.text]) rfl

/-- What a session does about a command, except a bare selection, which reads on. -/
theorem dispatch {guard : Option Guard} (h : console.store.Phase console.me guard)
    {command : Command} (hbare : command ≠ .selectBuffer none) :
    Plays (Session.dispatch command) console rest (console.deeds { command })
      (console.obey { command }).result (console.obey { command }).console rest := by
  unfold Session.dispatch
  cases command with
  | listBuffers =>
    refine said (andThen (header _) (andThen showActive
      (present (fun session => Report.list session.store) (fun _ => rfl)
        (Report.orderly_list _) _))) ?_ rfl
    simp [Deed.text, Console.obey, Console.present]
  | selectBuffer argument =>
    cases argument with
    | none => exact absurd rfl hbare
    | some argument =>
      refine said (andThen (header _) (choice (some argument))) ?_ rfl
      simp [Deed.text, Console.obey, Instruction.choice]
  | dumpActive =>
    refine said (andThen (header _) (andThen showActive
      (present (fun session => Report.buffer session.store session.me session.active)
        (fun _ => rfl) (Report.orderly_buffer _ _ _) _))) ?_ rfl
    simp [Deed.text, Console.obey, Console.present]
  | dumpAll =>
    refine said (andThen (header _)
      (present (fun session => Report.all session.store session.me true true) (fun _ => rfl)
        (Report.orderly_all _ _ _ _) _)) ?_ rfl
    simp [Deed.text, Console.obey, Console.present]
  | resetActive =>
    exact andThen (header _) (andThen showActive
      (get_bind (Session.reset (Clearing.ring console.active).perform >>= fun _ => Session.footer)
        (fun _ => rfl) (emptying h _ _)))
  | resetAll => exact andThen (header _) (emptying h .all _)
  | close | unknown => exact (pure ()).said rfl rfl

/-- A bare selection takes the next line as its answer. -/
theorem dispatch_bare {answer : Option String}
    (hread : Source.readLine { rest } = (.ok answer, { rest := left })) :
    Plays (Session.dispatch (.selectBuffer none)) console rest
      (console.deeds { command := .selectBuffer none, answer })
      (console.obey { command := .selectBuffer none, answer }).result
      (console.obey { command := .selectBuffer none, answer }).console left := by
  unfold Session.dispatch
  have hanswer : Plays (do
      match ← Session.readLine with
      | some answer => Session.select answer
      | none => Pure.pure ()
      Session.footer : Talk Unit) console rest _ _ _ left := bind (readLine hread) (choice answer)
  refine said (andThen (header _) (andThen (say _) hanswer)) ?_ rfl
  simp [Deed.text, Console.obey, Instruction.choice]

/-- A round: the next line, and those that belong to it, are an instruction, and it is obeyed. -/
theorem instruction {guard : Option Guard} (h : console.store.Phase console.me guard)
    {line : String} (hclose : Command.parse line ≠ .close) :
    ∃ instruction left, Instruction.ofLines (line :: Source.lines rest) =
        instruction :: Instruction.ofLines (Source.lines left) ∧
      left.length ≤ rest.length ∧
      Plays (Session.dispatch (Command.parse line)) console rest (console.deeds instruction)
        (console.obey instruction).result (console.obey instruction).console left := by
  by_cases hbare : Command.parse line = .selectBuffer none
  · rw [hbare]
    cases hlines : Source.lines rest with
    | nil =>
      refine ⟨_, rest, ?_, Nat.le_refl _, dispatch_bare (Source.readLine_of_no_lines hlines)⟩
      rw [Instruction.ofLines_unanswered hbare, hlines]
      rfl
    | cons answer lines =>
      obtain ⟨left, hread, hleft, hlength⟩ := Source.readLine_of_lines hlines
      refine ⟨_, left, ?_, Nat.le_of_lt hlength, dispatch_bare hread⟩
      rw [Instruction.ofLines_answered hbare, hleft]
  · exact ⟨_, rest, Instruction.ofLines_cons hclose hbare, Nat.le_refl _, dispatch h hbare⟩

theorem rounds_of_end {n : Nat}
    (hread : Source.readLine { rest } = (.ok none, { rest := left })) :
    Plays (Session.rounds (n + 1)) console rest [.say Console.menu] (.ok ()) console left :=
  andThen showMenu (bind (readLine hread) (pure ()))

theorem rounds_of_close {n : Nat} {line : String}
    (hread : Source.readLine { rest } = (.ok (some line), { rest := left }))
    (hclose : Command.parse line = .close) :
    Plays (Session.rounds (n + 1)) console rest [.say Console.menu] (.ok ()) console left := by
  refine andThen showMenu (bind (readLine hread) (?_ : Plays _ console left [] _ _ _))
  dsimp only
  rw [hclose]
  exact pure ()

theorem rounds_of_command {n : Nat} {line : String} {result : Except Halt Unit}
    (hread : Source.readLine { rest } = (.ok (some line), { rest := unread }))
    (hclose : Command.parse line ≠ .close)
    (h : Plays (Session.dispatch (Command.parse line) >>= fun _ => Session.rounds n) console unread
      deeds result next left) :
    Plays (Session.rounds (n + 1)) console rest (.say Console.menu :: deeds) result next left := by
  refine andThen showMenu (bind (readLine hread) (?_ : Plays _ console unread deeds _ _ _))
  dsimp only
  split
  · next heq => exact absurd heq hclose
  · exact h

/-- A session with rounds enough for its input. -/
theorem rounds {guard : Option Guard} (h : console.store.Phase console.me guard) {n : Nat}
    (hn : rest.length < n) :
    ∃ left, Plays (Session.rounds n) console rest
      (console.script (Instruction.ofLines (Source.lines rest)))
      (console.interpret (Instruction.ofLines (Source.lines rest))).result
      (console.interpret (Instruction.ofLines (Source.lines rest))).console left := by
  induction n generalizing console rest with
  | zero => exact absurd hn (Nat.not_lt_zero _)
  | succ n ih =>
    cases hlines : Source.lines rest with
    | nil => exact ⟨rest, rounds_of_end (Source.readLine_of_no_lines hlines)⟩
    | cons line lines =>
      obtain ⟨after, hread, rfl, hafter⟩ := Source.readLine_of_lines hlines
      by_cases hclose : Command.parse line = .close
      · rw [Instruction.ofLines_close hclose]
        exact ⟨after, rounds_of_close hread hclose⟩
      obtain ⟨instruction, left, hinstruction, hleft, hobey⟩ := instruction h hclose
      rw [hinstruction]
      cases hhalt : (console.obey instruction).halt with
      | some halt =>
        rw [Response.result_of_some hhalt] at hobey
        rw [Console.script_cons_of_some hhalt, Console.interpret_cons_of_some hhalt]
        refine ⟨left, rounds_of_command hread hclose ?_⟩
        rw [@Response.result_of_some _ halt]
        · exact bind_error hobey
        · exact hhalt
      | none =>
        rw [Response.result_of_none hhalt] at hobey
        have hshort : left.length < n := by omega
        obtain ⟨last, hlast⟩ := ih (Console.phase_obey h instruction) hshort
        rw [Console.script_cons_of_none hhalt, Console.interpret_cons_of_none hhalt]
        exact ⟨last, rounds_of_command hread hclose (andThen hobey hlast)⟩

/-- A session plays its script. -/
theorem run {guard : Option Guard} (h : console.store.Phase console.me guard) (input : Bytes) :
    ∃ left, Plays (Session.rounds (input.length + 1)) console input
      (console.script (Instruction.ofLines (Source.lines input)))
      (console.interpret (Instruction.ofLines (Source.lines input))).result
      (console.interpret (Instruction.ofLines (Source.lines input))).console left :=
  rounds h (Nat.lt_succ_self _)

end
end Plays
end Session

namespace Console

section
variable {console : Console} {guard : Option Guard}

theorem run_session (h : console.store.Phase console.me guard) (input : Bytes) :
    ∃ left, (console.session [] input).run =
      ((console.interpret (Instruction.ofLines (Source.lines input))).result,
        (console.interpret (Instruction.ofLines (Source.lines input))).console.session
          (console.interpret (Instruction.ofLines (Source.lines input))).text left) := by
  obtain ⟨left, hplays⟩ := Session.Plays.run h input
  refine ⟨left, (hplays.fits (Sink.put_of_endless rfl _)).trans ?_⟩
  rw [text_script]
  simp [facing, session]

theorem halt_obey (h : console.store.Phase console.me guard) (hlegible : console.store.Legible)
    (instruction : Instruction) : (console.obey instruction).halt = none := by
  unfold obey
  cases instruction.command with
  | listBuffers => exact (Report.finishes_list _).halt_transcript _
  | dumpActive => exact (Report.finishes_buffer h hlegible _).halt_transcript _
  | dumpAll => exact (Report.finishes_all h hlegible _ _).halt_transcript _
  | _ => rfl

theorem legible_obey (hlegible : console.store.Legible) (instruction : Instruction) :
    (console.obey instruction).console.store.Legible := by
  rw [store_obey]
  cases instruction.clearing? console.active with
  | none => exact hlegible
  | some clearing => exact hlegible.cleared clearing

/-- Where all events can be shown to the end, nothing ends a session early. -/
theorem halt_interpret (h : console.store.Phase console.me guard)
    (hlegible : console.store.Legible) (instructions : List Instruction) :
    (console.interpret instructions).halt = none := by
  induction instructions generalizing console with
  | nil => rfl
  | cons instruction instructions ih =>
    rw [interpret_cons_of_none (halt_obey h hlegible instruction)]
    exact ih (phase_obey h instruction) (legible_obey hlegible instruction)

end
end Console
end EventLog
