import EventLog.Proofs.Renderer.HexDump
import EventLog.Proofs.Report.Orderly

/-! What stands at the margin of a report. The built-in renderers start every line with a tab, whatever
bytes they are given, so that only the text of events starts at the margin. -/
namespace EventLog

open Source (newline segments)

namespace Utf8

theorem printable_encodeChars {cs : List Char} (h : ∀ c ∈ cs, Printable c) :
    ∀ b ∈ encodeChars cs, 32 ≤ b.toNat ∧ b.toNat < 127 := by
  intro b hb
  obtain ⟨c, hc, hmem⟩ := List.mem_flatMap.mp hb
  obtain ⟨hlow, hhigh⟩ := h c hc
  rw [encodeChar_of_ascii (by omega), List.mem_singleton] at hmem
  subst hmem
  rw [toNat_ofNat (by omega)]
  exact ⟨hlow, hhigh⟩

end Utf8

/-- The end of a line is no part of it. -/
theorem newline_not_mem_linesFrom {start : List Char} (hstart : '\n' ∉ start) (cs : List Char) :
    ∀ line ∈ linesFrom start cs, '\n' ∉ line := by
  fun_induction linesFrom start cs with
  | case1 start hempty => nofun
  | case2 start hempty => simpa using hstart
  | case3 start cs ih =>
    refine List.forall_mem_cons.mpr ⟨?_, ih List.not_mem_nil⟩
    rw [List.mem_reverse]
    split
    · exact fun hmem => hstart (List.mem_of_mem_tail hmem)
    · exact hstart
  | case4 start c cs hc ih =>
    exact ih (List.not_mem_cons_of_ne_of_not_mem (Ne.symm hc) hstart)

theorem newline_not_mem_frames (data : Bytes) :
    ∀ line ∈ ("Backtrace:" :: Backtrace.frames data).map String.toList, '\n' ∉ line := by
  unfold Backtrace.frames
  rw [List.map_cons, List.map_map, List.forall_mem_cons]
  refine ⟨by decide +kernel, ?_⟩
  have hid : String.toList ∘ String.ofList = id := funext fun _ => String.toList_ofList
  rw [hid, List.map_id]
  exact newline_not_mem_linesFrom List.not_mem_nil _

def tab : UInt8 := 9

/-- What starts at the margin: the lines that are not blank and have no tab before them. -/
def margin (bytes : Bytes) : List Bytes :=
  (segments bytes).filter fun line => line.head? ≠ some tab ∧ line ≠ [newline]

/-- Bytes whose last line has its end. -/
def Ended (bytes : Bytes) : Prop := ∀ b, bytes.getLast? = some b → b = newline

section
variable {first second : Bytes} {lines : List (List Char)} {line : List Char}

theorem segments_append (h : Ended first) :
    segments (first ++ second) = segments first ++ segments second := by
  induction first with
  | nil => rfl
  | cons b rest ih =>
    unfold Ended at h ih
    cases rest with
    | nil =>
      obtain rfl := h b rfl
      simp [segments]
    | cons c rest =>
      rw [List.getLast?_cons_cons] at h
      have hrest := ih h
      rw [List.cons_append, segments, hrest, segments.eq_def (b :: c :: rest)]
      dsimp only
      split
      · rfl
      · cases hsegments : segments (c :: rest) with
        | nil => cases Source.eq_nil_of_segments hsegments
        | cons segment more => rfl

theorem Ended.append (hfirst : Ended first) (hsecond : Ended second) : Ended (first ++ second) := by
  intro b hb
  rw [List.getLast?_append] at hb
  cases hlast : second.getLast? with
  | none =>
    rw [hlast] at hb
    exact hfirst b hb
  | some c =>
    rw [hlast] at hb
    exact hsecond b (hlast.trans hb)

theorem getLast?_encodeChars_line (cs : List Char) :
    (Utf8.encodeChars (cs ++ ['\n'])).getLast? = some newline := by
  rw [Utf8.encodeChars_append]
  exact List.getLast?_concat

theorem ended_of_getLast? (h : first.getLast? = some newline) : Ended first := by
  intro b hb
  rw [h] at hb
  exact (Option.some.inj hb).symm

theorem ended_encode_line (text : String) : Ended (Utf8.encode (text ++ "\n")) := by
  apply ended_of_getLast?
  unfold Utf8.encode
  rw [String.toList_append]
  exact getLast?_encodeChars_line _

theorem margin_append (h : Ended first) :
    margin (first ++ second) = margin first ++ margin second := by
  unfold margin
  rw [segments_append h, List.filter_append]

theorem getLast?_encodeChars_tabbed (h : lines ≠ []) :
    (Utf8.encodeChars (tabbed lines)).getLast? = some newline := by
  rw [← List.dropLast_concat_getLast h]
  have hend (init : List (List Char)) (last : List Char) :
      tabbed (init ++ [last]) = (tabbed init ++ '\t' :: last) ++ ['\n'] := by
    simp [tabbed]
  rw [hend]
  exact getLast?_encodeChars_line _

theorem margin_tabbed (h : ∀ line ∈ lines, '\n' ∉ line) :
    margin (Utf8.encodeChars (tabbed lines)) = [] := by
  unfold margin
  rw [segments_tabbed h, List.filter_eq_nil_iff, List.forall_mem_map]
  intro line _
  simp [Utf8.encodeChars, Utf8.encodeChar, tab]

end

namespace Emit

section
variable {α β : Type} {first second : Emit α} {next other : α → Emit β}

/-- Two writers that end alike on endless sinks and agree at the margin. -/
def SameMargin (first second : Emit α) : Prop :=
  ∃ result output more, first.Yields result output ∧ second.Yields result more ∧
    Ended output ∧ Ended more ∧ margin output = margin more

namespace SameMargin

theorem of_yields {result : Except Halt α} {output : Bytes} (h : first.Yields result output)
    (hended : Ended output) : first.SameMargin first :=
  ⟨result, output, output, h, h, hended, hended, rfl⟩

theorem bind (hfirst : first.SameMargin second) (hnext : ∀ a, (next a).SameMargin (other a)) :
    (first >>= next).SameMargin (second >>= other) := by
  obtain ⟨result, output, more, houtput, hmore, hended, hended', hmargin⟩ := hfirst
  cases result with
  | error halt =>
    exact ⟨.error halt, output, more, houtput.bind_error, hmore.bind_error, hended, hended',
      hmargin⟩
  | ok a =>
    obtain ⟨result, rest, rest', hrest, hrest', hlast, hlast', hmargin'⟩ := hnext a
    refine ⟨result, output ++ rest, more ++ rest', houtput.bind hrest, hmore.bind hrest',
      hended.append hlast, hended'.append hlast', ?_⟩
    rw [margin_append hended, margin_append hended', hmargin, hmargin']

theorem forM {l : List β} {writer other : β → Emit PUnit}
    (h : ∀ b ∈ l, (writer b).SameMargin (other b)) : (l.forM writer).SameMargin (l.forM other) := by
  induction l with
  | nil => exact .of_yields (.pure _) nofun
  | cons b l ih =>
    obtain ⟨hb, hl⟩ := List.forall_mem_cons.mp h
    exact hb.bind fun _ => ih hl

end SameMargin
end
end Emit

namespace Renderer

inductive BuiltIn : Renderer → Prop where
  | hexDump : BuiltIn .hexDump
  | backtrace : BuiltIn .backtrace

/-- A built-in renderer writes a line at least, and nothing but lines after a tab each. -/
theorem BuiltIn.exists_lines {renderer : Renderer} (h : renderer.BuiltIn) (data : Bytes) :
    ∃ lines : List (List Char), lines ≠ [] ∧ (∀ line ∈ lines, '\n' ∉ line) ∧
      (renderer.render data).Yields (.ok ()) (Utf8.encodeChars (tabbed lines)) ∧
      (renderer = .hexDump → ∀ line ∈ lines, ∀ c ∈ line, Printable c) := by
  cases h with
  | hexDump =>
    have hprintable := HexDump.printable_dump data
    refine ⟨_, ?_, fun line hline => HexDump.not_mem_of_printable (hprintable line hline),
      yields_hexDump data, fun _ => hprintable⟩
    simp [HexDump.heading]
  | backtrace =>
    refine ⟨_, ?_, newline_not_mem_frames data, yields_backtrace data, ?_⟩
    · simp
    · nofun

end Renderer

/-- An event whose payload, if it has one, is left to a built-in renderer. -/
def Record.BuiltIn (record : Record) : Prop :=
  ∀ payload renderer, record.payload = some payload → payload.renderer = some renderer →
    renderer.BuiltIn

def Record.withoutPayload (record : Record) : Record := { record with payload := none }

namespace Report

section
variable {record : Record} {records : List Record}

theorem sameMargin_payload {payload : StoredPayload} {renderer : Renderer}
    (hrenderer : payload.renderer = some renderer) (h : renderer.BuiltIn) :
    (Emit.line "" >>= fun _ => payload.render >>= fun _ => Emit.line "").SameMargin (pure ()) := by
  obtain ⟨lines, hne, hlines, hyields, -⟩ := h.exists_lines payload.data
  have hrender : payload.render.Yields (.ok true) (Utf8.encodeChars (tabbed lines) ++ []) := by
    unfold StoredPayload.render
    rw [hrenderer]
    exact hyields.bind (.pure true)
  have hended := ended_of_getLast? (getLast?_encodeChars_tabbed hne)
  have hblank := ended_encode_line ""
  rw [List.append_nil] at hrender
  refine ⟨.ok (), _, [], (Emit.Yields.line "").bind (hrender.bind (.line "")), .pure (),
    hblank.append (hended.append hblank), nofun, ?_⟩
  rw [margin_append hblank, margin_append hended, margin_tabbed hlines]
  rfl

theorem sameMargin_event (h : record.BuiltIn) :
    (event record).SameMargin (event record.withoutPayload) := by
  have hline : eventLine? record.withoutPayload = eventLine? record := rfl
  rw [event_eq, event_eq record.withoutPayload, hline]
  refine .bind ?_ fun _ => ?_
  · cases eventLine? record with
    | none => exact .of_yields (.throw _) nofun
    | some line => exact .of_yields (.line _) (ended_encode_line _)
  · cases hpayload : record.payload.filter fun payload => payload.renderer.isSome with
    | none => exact .of_yields (.pure _) nofun
    | some payload =>
      obtain ⟨hrecord, hsome⟩ := Option.filter_eq_some_iff.mp hpayload
      obtain ⟨renderer, hrenderer⟩ := Option.isSome_iff_exists.mp hsome
      exact sameMargin_payload hrenderer (h payload renderer hrecord hrenderer)

theorem sameMargin_events (h : ∀ record ∈ records, record.BuiltIn) :
    (events records).SameMargin (events (records.map Record.withoutPayload)) := by
  have hmap : events (records.map Record.withoutPayload) =
      records.forM fun record => event record.withoutPayload := List.forM_map
  rw [hmap]
  exact .forM fun record hrecord => sameMargin_event (h record hrecord)

end

/-- Whatever its bytes, a built-in renderer writes the same to every endless sink: something, to the end of
a line, in valid UTF-8, and a tab before each line. A hex dump has only printable ASCII characters
between the tabs and the ends of its lines. What starts at the margin of a report is the same without the
payloads. -/
theorem payload_keeps_off_margin :
    (∀ renderer : Renderer, renderer.BuiltIn → ∀ data, ∃ output : Bytes,
      (renderer.render data).Yields (.ok ()) output ∧ output ≠ [] ∧
      output.getLast? = some newline ∧ output.toByteArray.IsValidUTF8 ∧
      ∀ line ∈ segments output, ∃ body, line = tab :: (body ++ [newline]) ∧ newline ∉ body ∧
        (renderer = .hexDump → ∀ b ∈ body, 32 ≤ b.toNat ∧ b.toNat < 127)) ∧
    ∀ records : List Record, (∀ record ∈ records, record.BuiltIn) →
      (events records).SameMargin (events (records.map Record.withoutPayload)) := by
  refine ⟨?_, fun _ => sameMargin_events⟩
  intro renderer hbuiltIn data
  obtain ⟨lines, hne, hlines, hyields, hprintable⟩ := hbuiltIn.exists_lines data
  have hlast := getLast?_encodeChars_tabbed hne
  refine ⟨_, hyields, ?_, hlast, Utf8.isValidUTF8_encodeChars _, ?_⟩
  · intro hnil
    rw [hnil] at hlast
    cases hlast
  · rw [segments_tabbed hlines, List.forall_mem_map]
    intro line hline
    refine ⟨Utf8.encodeChars line, rfl, ?_, ?_⟩
    · rw [Utf8.newline_mem_encodeChars]
      exact hlines line hline
    · intro hdump
      exact Utf8.printable_encodeChars (hprintable hdump line hline)

/-- Bytes that make out to be the line of an event, with all that may end a line, and are no UTF-8. -/
def hostile : Bytes :=
  Utf8.encode "frame\r\n01/01/70 00:00:00.000000 -:-:0: forged\r" ++ [0xFF, 0xC0, newline, 0x00, 0x00]

/-- An event that carries them. -/
def carrier : Record :=
  { message := "true", payload := some
      { type := .backtrace, data := hostile, renderer := some .backtrace } }

theorem payload_keeps_off_margin_hostile :
    (∃ output, (Renderer.backtrace.render hostile).Yields (.ok ()) output ∧
      ∀ line ∈ segments output, line.head? = some tab) ∧
    ∃ output line, (events [carrier]).Yields (.ok ()) output ∧ eventLine? carrier = some line ∧
      margin output = margin (Utf8.encode (line ++ "\n")) := by
  obtain ⟨hrender, hreport⟩ := payload_keeps_off_margin
  constructor
  · obtain ⟨output, hyields, -, -, -, hlines⟩ := hrender .backtrace .backtrace hostile
    refine ⟨output, hyields, fun line hline => ?_⟩
    obtain ⟨body, rfl, -, -⟩ := hlines line hline
    rfl
  · have hbuiltIn : ∀ record ∈ [carrier], record.BuiltIn := by
      rw [List.forall_mem_singleton]
      rintro payload renderer ⟨⟩ ⟨⟩
      exact .backtrace
    obtain ⟨result, output, more, houtput, hmore, -, -, hmargin⟩ := hreport [carrier] hbuiltIn
    obtain ⟨line, hline⟩ := Option.isSome_iff_exists.mp
      (show (eventLine? carrier.withoutPayload).isSome = true by decide +kernel)
    have hbare : (events [carrier.withoutPayload]).Yields (.ok ())
        (Utf8.encode (line ++ "\n") ++ [] ++ []) := by
      refine .bind (a := ⟨⟩) ?_ (.pure _)
      rw [event_eq, hline]
      exact .bind (.line _) (.pure _)
    obtain ⟨rfl, rfl⟩ := hmore.unique hbare
    rw [List.append_nil, List.append_nil] at hmargin
    exact ⟨output, line, houtput, hline, hmargin⟩

end Report
end EventLog
