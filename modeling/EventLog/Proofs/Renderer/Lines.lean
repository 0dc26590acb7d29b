import EventLog.Proofs.Console.Line
import EventLog.Proofs.Output.Endless
import EventLog.Proofs.Text.Utf8
import EventLog.Renderer
import Mathlib.Tactic.SplitIfs

/-! What the built-in renderers write: lines, each after a tab. Bytes and characters are cut into lines at
the same places, so the lines can be read back from the bytes. -/
namespace EventLog

open Source (newline segments)

namespace Utf8

section
variable {c : Char} {cs first second : List Char}

theorem encodeChars_inj : encodeChars first = encodeChars second ↔ first = second := by
  constructor
  · intro h
    have hread := congrArg lossy h
    rwa [lossy_encodeChars, lossy_encodeChars, String.ofList_inj] at hread
  · rintro rfl
    rfl

theorem encodeChar_of_ascii (h : c.toNat < 0x80) : encodeChar c = [UInt8.ofNat c.toNat] := by
  unfold encodeChar
  rw [if_pos h]

/-- A character outside ASCII is written with bytes outside ASCII. -/
theorem le_of_mem_encodeChar (h : 0x80 ≤ c.toNat) : ∀ b ∈ encodeChar c, 0x80 ≤ b.toNat := by
  have hc := char_bounds c
  unfold encodeChar
  dsimp only
  rw [if_neg (by omega)]
  split_ifs
  all_goals
    simp only [List.forall_mem_cons, UInt8.toNat_ofNat', List.not_mem_nil, false_implies,
      implies_true, and_true]
    omega

theorem newline_mem_encodeChar : newline ∈ encodeChar c ↔ c = '\n' := by
  constructor
  · intro h
    by_cases hascii : c.toNat < 0x80
    · rw [encodeChar_of_ascii hascii, List.mem_singleton] at h
      have hcode := congrArg UInt8.toNat h
      rw [toNat_ofNat (by omega)] at hcode
      rw [← Char.toNat_inj, ← hcode]
      rfl
    · have hle := le_of_mem_encodeChar (Nat.le_of_not_lt hascii) newline h
      exact absurd hle (by decide)
  · rintro rfl
    decide

theorem newline_mem_encodeChars : newline ∈ encodeChars cs ↔ '\n' ∈ cs := by
  unfold encodeChars
  simp only [List.mem_flatMap, newline_mem_encodeChar, exists_eq_right]

end
end Utf8

/-- Lines after a tab each. -/
def tabbed (lines : List (List Char)) : List Char :=
  lines.flatMap fun line => '\t' :: (line ++ ['\n'])

section
variable {lines others : List (List Char)} {line : List Char}

theorem tabbed_cons (line : List Char) (lines : List (List Char)) :
    tabbed (line :: lines) = '\t' :: (line ++ '\n' :: tabbed lines) := by
  simp [tabbed]

/-- The bytes of lines are cut where the lines end. -/
theorem segments_tabbed (h : ∀ line ∈ lines, '\n' ∉ line) :
    segments (Utf8.encodeChars (tabbed lines)) =
      lines.map fun line => Utf8.encodeChars ('\t' :: line) ++ [newline] := by
  induction lines with
  | nil => rfl
  | cons line lines ih =>
    obtain ⟨hline, hlines⟩ := List.forall_mem_cons.mp h
    have hbody : newline ∉ Utf8.encodeChars ('\t' :: line) := by
      rw [Utf8.newline_mem_encodeChars]
      simpa using hline
    have hsplit : Utf8.encodeChars (tabbed (line :: lines)) =
        Utf8.encodeChars ('\t' :: line) ++ newline :: Utf8.encodeChars (tabbed lines) := by
      rw [tabbed_cons, ← List.cons_append, Utf8.encodeChars_append]
      rfl
    rw [hsplit, Source.segments_append_newline hbody, ih hlines, List.map_cons]

/-- Lines can be told from their bytes. -/
theorem encodeChars_tabbed_inj (h : ∀ line ∈ lines, '\n' ∉ line)
    (hothers : ∀ line ∈ others, '\n' ∉ line) :
    Utf8.encodeChars (tabbed lines) = Utf8.encodeChars (tabbed others) ↔ lines = others := by
  constructor
  · intro heq
    have hsegments := congrArg segments heq
    rw [segments_tabbed h, segments_tabbed hothers] at hsegments
    refine List.map_injective_iff.mpr ?_ hsegments
    intro first second hline
    have hbytes := List.append_cancel_right hline
    exact List.tail_eq_of_cons_eq (Utf8.encodeChars_inj.mp hbytes)
  · rintro rfl
    rfl

end

theorem Drawing.play_ofLines (lines : List String) :
    (ofLines lines).play = (lines.map Utf8.encode).forM Emit.put :=
  bind_pure_unit

namespace Renderer

/-- On an endless sink the lines are written to the end. -/
theorem yields_ofLines (lines : List String) :
    (Drawing.ofLines (lines.map fun line => "\t" ++ line ++ "\n")).play.Yields (.ok ())
      (Utf8.encodeChars (tabbed (lines.map String.toList))) := by
  have hbytes : ((lines.map fun line => "\t" ++ line ++ "\n").map Utf8.encode).flatten =
      Utf8.encodeChars (tabbed (lines.map String.toList)) := by
    simp [tabbed, Utf8.encode, Utf8.encodeChars, List.flatMap_map, List.flatMap_assoc,
      List.flatten_eq_flatMap]
  rw [Drawing.play_ofLines, ← hbytes]
  exact .forM_put _

section
variable (data : Bytes)

theorem yields_hexDump : (hexDump.render data).Yields (.ok ())
    (Utf8.encodeChars (tabbed
      ((HexDump.heading data.length ++ HexDump.rows 0 data).map String.toList))) :=
  yields_ofLines _

theorem yields_backtrace : (backtrace.render data).Yields (.ok ())
    (Utf8.encodeChars (tabbed (("Backtrace:" :: Backtrace.frames data).map String.toList))) :=
  yields_ofLines _

end
end Renderer
end EventLog
