import EventLog.Proofs.Console.Conversation
import EventLog.Proofs.Text.Utf8

/-! How a session reads an input. One call answers with one segment of the input, whatever the length of
the segment, and every round but the last takes a byte, so that the loop of a session ends. -/
namespace EventLog

namespace Session

/-- The answers of a number of calls, one after the other. -/
def readLines : (n : Nat) → Talk (List (Option String))
  | 0 => pure []
  | n + 1 => do
    let answer ← readLine
    let answers ← readLines n
    return answer :: answers

/-- A round, and whether there is another one. -/
def round : Talk Bool := do
  showMenu
  match ← readLine with
  | none => pure false
  | some line =>
    match Command.parse line with
    | .close => pure false
    | command => do
      dispatch command
      pure true

/-- How the loop of a session ends, with no bound on the number of its rounds. -/
inductive Ends : Session → Except Halt Unit × Session → Prop
  | halted {session after : Session} {halt : Halt}
      (h : round.run session = (.error halt, after)) : Ends session (.error halt, after)
  | ended {session after : Session}
      (h : round.run session = (.ok false, after)) : Ends session (.ok (), after)
  | again {session middle : Session} {outcome : Except Halt Unit × Session}
      (h : round.run session = (.ok true, middle)) (hrest : Ends middle outcome) :
      Ends session outcome

section
variable {session after middle : Session} {α β : Type}

theorem run_readLine (session : Session) :
    readLine.run session =
      (session.source.readLine.1, { session with source := session.source.readLine.2 }) := rfl

/-- A call for each segment, and what is left after them. -/
theorem run_readLines (session : Session) (n : Nat) (input : Bytes) :
    (readLines n).run { session with source := { rest := input } } =
      (.ok ((List.range n).map fun call => (Source.lines input)[call]?),
        { session with source := { rest := ((Source.segments input).drop n).flatten } }) := by
  induction n generalizing input with
  | zero =>
    rw [List.drop_zero, Source.flatten_segments]
    rfl
  | succ n ih =>
    rw [readLines, run_bind, run_readLine, List.range_succ_eq_map, List.map_cons, List.map_map]
    cases hsegments : Source.segments input with
    | nil =>
      have hlines : Source.lines input = [] := by rw [Source.lines, hsegments, List.map_nil]
      rw [Source.readLine_of_no_lines hlines]
      dsimp only
      rw [run_bind_of_ok (ih input), hlines, hsegments, List.drop_nil, List.drop_nil]
      rfl
    | cons segment more =>
      obtain ⟨rest, hread, rfl, -⟩ := Source.readLine_segment hsegments
      rw [hread]
      dsimp only
      rw [run_bind_of_ok (ih rest), Source.lines, Source.lines, hsegments]
      rfl

/-- More rounds are one round, and the others where there is another one. -/
theorem rounds_succ (n : Nat) :
    rounds (n + 1) = round >>= fun more => if more then rounds n else pure () := by
  rw [rounds, round, bind_assoc]
  congr 1
  funext _
  rw [bind_assoc]
  congr 1
  funext answer
  cases answer with
  | none => rfl
  | some line =>
    dsimp only
    cases Command.parse line with
    | close => rfl
    | _ => simp

/-- The source of a session only gets shorter. -/
def Recedes (talk : Talk α) : Prop :=
  ∀ session : Session,
    (talk.run session).2.source.rest.length ≤ session.source.rest.length

theorem Recedes.bind {talk : Talk α} {next : α → Talk β} (htalk : Recedes talk)
    (hnext : ∀ a, Recedes (next a)) : Recedes (talk >>= next) := by
  intro session
  have hfirst := htalk session
  rw [run_bind]
  cases hrun : talk.run session with
  | mk result middle =>
    rw [hrun] at hfirst
    cases result with
    | error halt => exact hfirst
    | ok a => exact (hnext a middle).trans hfirst

theorem Recedes.reset (action : Store → ThreadId → Except Fault Unit × Store) :
    Recedes (Session.reset action) := by
  intro session
  rw [run_reset]
  split <;> exact Nat.le_refl _

theorem Recedes.compositional : Compositional fun talk => Recedes talk :=
  .of_parts (fun _ _ => Nat.le_refl _) bind (fun _ => Nat.le_refl _) (fun _ _ => Nat.le_refl _)
    (fun session => Source.length_readLine_le session.source) (fun _ _ => Nat.le_refl _)
    (fun _ => reset _) (reset _)

/-- A round with another one after it takes a byte at least. -/
theorem length_round_lt (h : round.run session = (.ok true, after)) :
    after.source.rest.length < session.source.rest.length := by
  obtain ⟨_, shown, hmenu, h⟩ := exists_of_run_bind h
  obtain ⟨answer, read, hread, h⟩ := exists_of_run_bind h
  have hshown := Recedes.compositional.showMenu session
  rw [hmenu] at hshown
  cases answer with
  | none => cases h
  | some line =>
    have hline : (shown.source.readLine).1 = .ok (some line) := congrArg Prod.fst hread
    have htaken : read.source = shown.source.readLine.2 :=
      (congrArg (·.2.source) hread).symm
    have hlt := Source.length_readLine_lt hline
    rw [← htaken] at hlt
    dsimp only at h
    split at h
    · cases h
    · obtain ⟨_, done, hdispatch, h⟩ := exists_of_run_bind h
      cases h
      have hdone := Recedes.compositional.dispatch (Command.parse line) read
      rw [hdispatch] at hdone
      dsimp only at hshown hdone
      omega

/-- With rounds enough for the input, their number makes no difference. -/
theorem run_rounds_eq {n m : Nat} (hn : session.source.rest.length < n)
    (hm : session.source.rest.length < m) : (rounds n).run session = (rounds m).run session := by
  induction n generalizing session m with
  | zero => exact absurd hn (Nat.not_lt_zero _)
  | succ n ih =>
    obtain ⟨m, rfl⟩ := Nat.exists_eq_add_one_of_ne_zero (Nat.ne_of_gt (Nat.zero_lt_of_lt hm))
    rw [rounds_succ, rounds_succ, run_bind, run_bind]
    cases hround : round.run session with
    | mk result after =>
      cases result with
      | error halt => rfl
      | ok more =>
        cases more with
        | false => rfl
        | true =>
          have hlt := length_round_lt hround
          exact ih (by omega) (by omega)

/-- The loop of a session ends, in one way only, and within the bound on its rounds. -/
theorem ends_iff_run {outcome : Except Halt Unit × Session} :
    Ends session outcome ↔ session.run = outcome := by
  constructor
  · intro h
    unfold run
    induction h with
    | halted h => rw [rounds_succ, run_bind, h]
    | ended h =>
      rw [rounds_succ, run_bind_of_ok h]
      rfl
    | again h _ ih =>
      rw [rounds_succ, run_bind_of_ok h]
      exact (run_rounds_eq (length_round_lt h) (Nat.lt_succ_self _)).trans ih
  · -- The input of a session gets shorter from round to round.
    rintro rfl
    induction hlength : session.source.rest.length using Nat.strong_induction_on
      generalizing session with
    | h length ih =>
      unfold run
      rw [rounds_succ, run_bind]
      cases hround : round.run session with
      | mk result after =>
        cases result with
        | error halt => exact .halted hround
        | ok more =>
          cases more with
          | false => exact .ended hround
          | true =>
            have hlt := length_round_lt hround
            refine .again hround ?_
            dsimp only
            rw [if_pos rfl, run_rounds_eq hlt (Nat.lt_succ_self _)]
            exact ih _ (hlength ▸ hlt) rfl

/-- An input is cut after each newline, and the calls of a session answer with one line for each of the
segments, in turn, and with the end of the input from then on. The line is the text of the first 256
bytes of its segment, less the white space at its end, and the segment is used up with it, whatever its
length. A call that answers with a line takes a byte, so that the loop of a session ends, in the way
that its bounded form computes; a session does what the lines of the segments ask for, and nothing
else. -/
theorem lines_follow_segments (input : Bytes) :
    ((Source.segments input).flatten = input ∧
      (∀ segment ∈ Source.segments input,
        segment ≠ [] ∧ Source.newline ∉ segment.dropLast) ∧
      ∀ segment ∈ (Source.segments input).dropLast,
        segment.getLast? = some Source.newline) ∧
    (∀ bytes, ∃ blanks, Utf8.lossy bytes = Source.decode bytes ++ String.ofList blanks ∧
      (∀ c ∈ blanks, isBlank c = true) ∧
      ∀ c, (Source.decode bytes).toList.getLast? = some c → isBlank c = false) ∧
    (∀ (session : Session) n,
      (readLines n).run { session with source := { rest := input } } =
        (.ok ((List.range n).map fun call =>
            (Source.segments input)[call]?.map fun segment => Source.decode (segment.take 256)),
          { session with source := { rest := ((Source.segments input).drop n).flatten } })) ∧
    (∀ session line after, readLine.run session = (.ok (some line), after) →
      after.source.rest.length < session.source.rest.length) ∧
    (∀ session outcome, Ends session outcome ↔ session.run = outcome) ∧
    ∀ (console : Console) guard, console.store.Phase console.me guard →
      ∀ response, console.interpret (Instruction.ofLines
          ((Source.segments input).map fun segment => Source.decode (segment.take 256))) =
        response →
        (∃ left, Ends (console.session [] input)
          (response.result, response.console.session response.text left)) ∧
        (console.store.Legible → response.result = .ok ()) := by
  refine ⟨⟨Source.flatten_segments input, fun _ => Source.mem_segments,
    fun _ => Source.getLast?_of_mem_dropLast⟩, Source.decode_spec, ?_, ?_,
    fun _ _ => ends_iff_run, ?_⟩
  · intro session n
    rw [run_readLines]
    unfold Source.lines
    simp only [List.getElem?_map]
    rfl
  · intro session line after h
    rw [run_readLine] at h
    obtain ⟨hline, rfl⟩ := Prod.mk.inj h
    exact Source.length_readLine_lt hline
  · rintro console guard hphase response rfl
    obtain ⟨left, hrun⟩ := Console.run_session hphase input
    exact ⟨⟨left, ends_iff_run.mpr hrun⟩, fun hlegible =>
      Response.result_of_none (Console.halt_interpret hphase hlegible _)⟩

/-- A line that fills the limit with a command beyond it, a command, and one without an end. -/
def overlong : Bytes :=
  Utf8.encodeChars (List.replicate 256 'x') ++ Utf8.encode "5\n6 \nq"

theorem map_decode_overlong :
    ((Source.segments overlong).map fun segment => Source.decode (segment.take 256)) =
      [String.ofList (List.replicate 256 'x'), "6", "q"] := by
  have hsegments : Source.segments overlong =
      [Utf8.encodeChars (List.replicate 256 'x') ++ Utf8.encode "5\n", Utf8.encode "6 \n",
        Utf8.encode "q"] := by decide +kernel
  have htake : (Utf8.encodeChars (List.replicate 256 'x') ++ Utf8.encode "5\n").take 256 =
      Utf8.encodeChars (List.replicate 256 'x') := by decide +kernel
  have htrim : trimEnd (List.replicate 256 'x') = List.replicate 256 'x' := by decide +kernel
  have hfirst : Source.decode (Utf8.encodeChars (List.replicate 256 'x')) =
      String.ofList (List.replicate 256 'x') := by
    rw [Source.decode, Utf8.lossy_encodeChars, String.toList_ofList, htrim]
  have hsecond : Source.decode ((Utf8.encode "6 \n").take 256) = "6" := by decide +kernel
  have hthird : Source.decode ((Utf8.encode "q").take 256) = "q" := by decide +kernel
  rw [hsegments]
  simp only [List.map_cons, List.map_nil, htake, hfirst, hsecond, hthird]

theorem ofLines_overlong :
    Instruction.ofLines [String.ofList (List.replicate 256 'x'), "6", "q"] =
      [{ command := .unknown }, { command := .resetAll }] := by
  have htrim : trim (String.ofList (List.replicate 256 'x')).toList =
      'x' :: List.replicate 255 'x' := by
    rw [String.toList_ofList]
    decide +kernel
  have hparse (line : String) (h : trim line.toList = 'x' :: List.replicate 255 'x') :
      Command.parse line = .unknown := by
    unfold Command.parse
    rw [h]
    rfl
  have hunknown := hparse _ htrim
  rw [Instruction.ofLines_cons (by rw [hunknown]; decide) (by rw [hunknown]; decide), hunknown]
  decide +kernel

/-- The command beyond the limit is neither a line nor obeyed. -/
theorem lines_follow_segments_overlong :
    (readLines 4).run (start (Store.ofConfig {}) 0 { rest := overlong } {}) =
      (.ok [some (String.ofList (List.replicate 256 'x')), some "6", some "q", none],
        start (Store.ofConfig {}) 0 { rest := [] } {}) ∧
    ∃ response left,
      (Console.start (Store.ofConfig {}) 0 {}).interpret
        [{ command := .unknown }, { command := .resetAll }] = response ∧
      Ends ((Console.start (Store.ofConfig {}) 0 {}).session [] overlong)
        (.ok (), response.console.session response.text left) := by
  obtain ⟨-, -, hcalls, -, -, hends⟩ := lines_follow_segments overlong
  constructor
  · have hleft : ((Source.segments overlong).drop 4).flatten = [] := by decide +kernel
    have hrun := hcalls (start (Store.ofConfig {}) 0 { rest := [] } {}) 4
    simp only [← List.getElem?_map] at hrun
    rw [map_decode_overlong, hleft] at hrun
    exact hrun
  · have hphase : (Console.start (Store.ofConfig {}) 0 {}).store.Phase 0 none :=
      .down rfl rfl rfl fun _ => Table.get?_empty _ _
    have hlegible : (Console.start (Store.ofConfig {}) 0 {}).store.Legible := by
      intro id ring hget
      cases (Table.get?_empty _ _).symm.trans hget
    obtain ⟨⟨left, hended⟩, hresult⟩ := hends _ none hphase _ rfl
    rw [hresult hlegible, map_decode_overlong, ofLines_overlong] at hended
    exact ⟨_, left, rfl, hended⟩

end
end Session
end EventLog
