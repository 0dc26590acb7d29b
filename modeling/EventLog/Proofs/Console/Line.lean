import EventLog.Console.Source
import Mathlib.Data.List.Basic

/-! The lines of an input, and how they are read. The input is cut after each newline; whatever the
length of a segment, one call reads it to its end and answers with the beginning of it. -/
namespace EventLog.Source

/-- The input, cut after each newline. The last segment may lack one. -/
def segments : Bytes → List Bytes
  | [] => []
  | b :: rest =>
    if b = newline then [b] :: segments rest
    else
      match segments rest with
      | [] => [[b]]
      | segment :: more => (b :: segment) :: more

/-- What counts of the segments, as text. -/
def lines (input : Bytes) : List String :=
  (segments input).map fun segment => decode (segment.take Limits.commandLine)

section
variable {body rest input : Bytes} {room : Nat}

theorem segments_append_newline (h : newline ∉ body) (rest : Bytes) :
    segments (body ++ newline :: rest) = (body ++ [newline]) :: segments rest := by
  induction body with
  | nil => simp [segments]
  | cons b body ih =>
    obtain ⟨hne, hbody⟩ := List.ne_and_not_mem_of_not_mem_cons h
    rw [List.cons_append, segments, if_neg (Ne.symm hne), ih hbody]
    rfl

theorem segments_of_no_newline (h : newline ∉ body) (hne : body ≠ []) :
    segments body = [body] := by
  induction body with
  | nil => exact absurd rfl hne
  | cons b body ih =>
    obtain ⟨hb, hbody⟩ := List.ne_and_not_mem_of_not_mem_cons h
    rw [segments, if_neg (Ne.symm hb)]
    cases body with
    | nil => rfl
    | cons c body => rw [ih hbody nofun]

/-- An input is empty, or goes on after its first line, or is a line without an end. -/
theorem line_cases (input : Bytes) :
    input = [] ∨ (∃ body rest, newline ∉ body ∧ input = body ++ newline :: rest) ∨
      (input ≠ [] ∧ newline ∉ input) := by
  by_cases hmem : newline ∈ input
  · obtain ⟨body, rest, rfl, hbody⟩ := List.eq_append_cons_of_mem hmem
    exact .inr (.inl ⟨body, rest, hbody, rfl⟩)
  · cases input with
    | nil => exact .inl rfl
    | cons b input => exact .inr (.inr ⟨nofun, hmem⟩)

theorem takeLine_append_newline (h : newline ∉ body) (hroom : body.length < room) (rest : Bytes) :
    takeLine room (body ++ newline :: rest) = (body ++ [newline], rest) := by
  induction body generalizing room with
  | nil =>
    obtain ⟨room, rfl⟩ := Nat.exists_eq_add_one_of_ne_zero (Nat.ne_of_gt hroom)
    simp [takeLine]
  | cons b body ih =>
    obtain ⟨hne, hbody⟩ := List.ne_and_not_mem_of_not_mem_cons h
    obtain ⟨room, rfl⟩ := Nat.exists_eq_add_one_of_ne_zero (Nat.ne_of_gt (Nat.zero_lt_of_lt hroom))
    rw [List.cons_append, takeLine, if_neg (Ne.symm hne),
      ih hbody (Nat.lt_of_succ_lt_succ hroom)]
    rfl

/-- Where no line ends within the room, the room is filled. -/
theorem takeLine_of_no_newline (h : newline ∉ body) (hroom : room ≤ body.length) (rest : Bytes) :
    takeLine room (body ++ rest) = (body.take room, body.drop room ++ rest) := by
  induction body generalizing room with
  | nil =>
    obtain rfl := Nat.le_zero.mp hroom
    rfl
  | cons b body ih =>
    obtain ⟨hne, hbody⟩ := List.ne_and_not_mem_of_not_mem_cons h
    cases room with
    | zero => rfl
    | succ room =>
      rw [List.cons_append, takeLine, if_neg (Ne.symm hne), ih hbody (Nat.le_of_succ_le_succ hroom)]
      rfl

theorem takeLine_last (h : newline ∉ body) (hroom : body.length ≤ room) :
    takeLine room body = (body, []) := by
  induction body generalizing room with
  | nil => cases room <;> rfl
  | cons b body ih =>
    obtain ⟨hne, hbody⟩ := List.ne_and_not_mem_of_not_mem_cons h
    obtain ⟨room, rfl⟩ := Nat.exists_eq_add_one_of_ne_zero (Nat.ne_of_gt (Nat.zero_lt_of_lt hroom))
    rw [takeLine, if_neg (Ne.symm hne), ih hbody (Nat.le_of_succ_le_succ hroom)]

/-- Of a line without an end within it, nothing is left. -/
theorem dropLine_append (h : newline ∉ body) (rest : Bytes) :
    dropLine (body ++ rest) = dropLine rest := by
  unfold dropLine
  rw [List.dropWhile_append_of_pos]
  intro b hb
  simpa using fun heq : b = newline => h (heq ▸ hb)

theorem isWhole_of_no_newline (h : newline ∉ body) : isWhole body = false := by
  unfold isWhole
  cases hlast : body.getLast? with
  | none => rfl
  | some b =>
    have hb : b ≠ newline := fun heq => h (heq ▸ List.mem_of_getLast? hlast)
    simpa using hb

theorem isWhole_append_newline (body : Bytes) : isWhole (body ++ [newline]) = true := by
  simp [isWhole]

/-- A line that fills the room counts up to there, and is read to its end. -/
theorem readLine_overlong (h : newline ∉ body) (hroom : Limits.commandLine ≤ body.length)
    (rest : Bytes) :
    readLine { rest := body ++ rest } =
      (.ok (some (decode (body.take Limits.commandLine))), { rest := dropLine rest }) := by
  have htake : newline ∉ body.take Limits.commandLine := fun hmem => h (List.mem_of_mem_take hmem)
  have hdrop : newline ∉ body.drop Limits.commandLine := fun hmem => h (List.mem_of_mem_drop hmem)
  have hlength : (body.take Limits.commandLine).length = Limits.commandLine :=
    List.length_take_of_le hroom
  unfold readLine
  dsimp only
  rw [takeLine_of_no_newline h hroom, isWhole_of_no_newline htake, dropLine_append hdrop]
  simp [hlength]

theorem readLine_append_newline (h : newline ∉ body) (rest : Bytes) :
    readLine { rest := body ++ newline :: rest } =
      (.ok (some (decode ((body ++ [newline]).take Limits.commandLine))), { rest }) := by
  by_cases hroom : Limits.commandLine ≤ body.length
  · rw [readLine_overlong h hroom, List.take_append_of_le_length hroom]
    rfl
  · have hfits : (body ++ [newline]).length ≤ Limits.commandLine := by
      rw [List.length_append]
      exact Nat.lt_of_not_le hroom
    unfold readLine
    dsimp only
    rw [takeLine_append_newline h (Nat.lt_of_not_le hroom), if_pos (isWhole_append_newline body),
      List.take_of_length_le hfits]

theorem readLine_last (h : newline ∉ body) (hne : body ≠ []) :
    readLine { rest := body } =
      (.ok (some (decode (body.take Limits.commandLine))), { rest := [] }) := by
  by_cases hroom : Limits.commandLine ≤ body.length
  · have hread := readLine_overlong h hroom []
    rwa [List.append_nil] at hread
  · have hshort : body.length < Limits.commandLine := Nat.lt_of_not_le hroom
    unfold readLine
    dsimp only
    rw [takeLine_last h (Nat.le_of_lt hshort), isWhole_of_no_newline h,
      List.take_of_length_le (Nat.le_of_lt hshort)]
    simp [hshort, hne]

/-- A call reads one segment of the input to its end. -/
theorem readLine_segment {segment : Bytes} {more : List Bytes}
    (h : segments input = segment :: more) :
    ∃ rest, readLine { rest := input } =
        (.ok (some (decode (segment.take Limits.commandLine))), { rest }) ∧
      segments rest = more ∧ rest.length < input.length := by
  rcases line_cases input with rfl | ⟨body, rest, hbody, rfl⟩ | ⟨hne, hinput⟩
  · cases h
  · rw [segments_append_newline hbody] at h
    cases h
    refine ⟨rest, readLine_append_newline hbody rest, rfl, ?_⟩
    rw [List.length_append, List.length_cons]
    omega
  · rw [segments_of_no_newline hinput hne] at h
    cases h
    exact ⟨[], readLine_last hinput hne, rfl, List.length_pos_iff.mpr hne⟩

theorem eq_nil_of_segments (h : segments input = []) : input = [] := by
  rcases line_cases input with rfl | ⟨body, rest, hbody, rfl⟩ | ⟨hne, hinput⟩
  · rfl
  · rw [segments_append_newline hbody] at h
    cases h
  · rw [segments_of_no_newline hinput hne] at h
    cases h

/-- Where there is another line, a call reads it and leaves those after it. -/
theorem readLine_of_lines {line : String} {more : List String} (h : lines input = line :: more) :
    ∃ rest, readLine { rest := input } = (.ok (some line), { rest }) ∧ lines rest = more ∧
      rest.length < input.length := by
  obtain ⟨segment, segments, hsegments, rfl, rfl⟩ := List.map_eq_cons_iff.mp h
  obtain ⟨rest, hread, rfl, hlength⟩ := readLine_segment hsegments
  exact ⟨rest, hread, rfl, hlength⟩

theorem readLine_of_no_lines (h : lines input = []) :
    readLine { rest := input } = (.ok none, { rest := input }) := by
  obtain rfl := eq_nil_of_segments (List.map_eq_nil_iff.mp h)
  rfl

/-- The segments in turn are the input. -/
theorem flatten_segments (input : Bytes) : (segments input).flatten = input := by
  induction input with
  | nil => rfl
  | cons b rest ih =>
    unfold segments
    split
    · rw [List.flatten_cons, ih]
      rfl
    · cases hrest : segments rest with
      | nil => simpa [hrest, eq_comm] using ih
      | cons segment more => simpa [hrest] using ih

/-- Only the end of a segment is a newline. -/
theorem mem_segments {segment : Bytes} (h : segment ∈ segments input) :
    segment ≠ [] ∧ newline ∉ segment.dropLast := by
  induction input generalizing segment with
  | nil => cases h
  | cons b rest ih =>
    unfold segments at h
    split at h
    · rcases List.mem_cons.mp h with rfl | hmore
      · exact ⟨nofun, List.not_mem_nil⟩
      · exact ih hmore
    · next hb =>
      cases hrest : segments rest with
      | nil =>
        rw [hrest] at h
        obtain rfl := List.mem_singleton.mp h
        exact ⟨nofun, List.not_mem_nil⟩
      | cons first more =>
        rw [hrest] at h
        rcases List.mem_cons.mp h with rfl | hmore
        · obtain ⟨hne, hlast⟩ := ih (hrest ▸ List.mem_cons_self)
          refine ⟨nofun, ?_⟩
          rw [List.dropLast_cons_of_ne_nil hne, List.mem_cons, not_or]
          exact ⟨Ne.symm hb, hlast⟩
        · exact ih (hrest ▸ List.mem_cons_of_mem _ hmore)

/-- A segment before the last has a newline at its end. -/
theorem getLast?_of_mem_dropLast {segment : Bytes} (h : segment ∈ (segments input).dropLast) :
    segment.getLast? = some newline := by
  induction input generalizing segment with
  | nil => cases h
  | cons b rest ih =>
    unfold segments at h
    split at h
    · next hb =>
      cases hrest : segments rest with
      | nil =>
        rw [hrest] at h
        cases h
      | cons first more =>
        rw [hrest, List.dropLast_cons_cons, ← hrest] at h
        rcases List.mem_cons.mp h with rfl | hmore
        · rw [hb]
          rfl
        · exact ih hmore
    · cases hrest : segments rest with
      | nil =>
        rw [hrest] at h
        cases h
      | cons first more =>
        rw [hrest] at h ih
        cases more with
        | nil => cases h
        | cons second more =>
          dsimp only at h
          rw [List.dropLast_cons_cons] at h ih
          rcases List.mem_cons.mp h with rfl | hmore
          · have hfirst := ih List.mem_cons_self
            rw [List.getLast?_cons, hfirst]
            rfl
          · exact ih (List.mem_cons_of_mem _ hmore)

theorem takeLine_append (room : Nat) (rest : Bytes) :
    (takeLine room rest).1 ++ (takeLine room rest).2 = rest := by
  induction rest generalizing room with
  | nil => cases room <;> rfl
  | cons b rest ih =>
    cases room with
    | zero => rfl
    | succ room =>
      unfold takeLine
      split
      · rfl
      · exact congrArg (b :: ·) (ih room)

theorem length_dropLine_le (rest : Bytes) : (dropLine rest).length ≤ rest.length := by
  unfold dropLine
  rw [List.length_drop]
  exact Nat.le_trans (Nat.sub_le _ _) (List.dropWhile_sublist _).length_le

section
variable {source : Source}

theorem length_readLine_le_takeLine (source : Source) :
    (readLine source).2.rest.length ≤ (takeLine Limits.commandLine source.rest).2.length := by
  unfold readLine
  dsimp only
  split
  · exact Nat.le_refl _
  · split
    · split <;> exact Nat.le_refl _
    · split <;> exact length_dropLine_le _

theorem takeLine_ne_nil {line : String} (h : (readLine source).1 = .ok (some line)) :
    (takeLine Limits.commandLine source.rest).1 ≠ [] := by
  intro hnil
  unfold readLine at h
  dsimp only at h
  rw [hnil] at h
  cases hbroken : source.broken <;> simp [hbroken, isWhole, Limits.commandLine] at h

/-- A call gives nothing back. -/
theorem length_readLine_le (source : Source) :
    (readLine source).2.rest.length ≤ source.rest.length := by
  have hsplit := congrArg List.length (takeLine_append Limits.commandLine source.rest)
  rw [List.length_append] at hsplit
  have hle := length_readLine_le_takeLine source
  omega

/-- A call that answers with a line takes a byte at least. -/
theorem length_readLine_lt {line : String} (h : (readLine source).1 = .ok (some line)) :
    (readLine source).2.rest.length < source.rest.length := by
  have hsplit := congrArg List.length (takeLine_append Limits.commandLine source.rest)
  rw [List.length_append] at hsplit
  have hle := length_readLine_le_takeLine source
  have hpos := List.length_pos_iff.mpr (takeLine_ne_nil h)
  omega

end

/-- The line that counts of some bytes is their text up to the white space at its end. -/
theorem decode_spec (bytes : Bytes) :
    ∃ blanks, Utf8.lossy bytes = decode bytes ++ String.ofList blanks ∧
      (∀ c ∈ blanks, isBlank c = true) ∧
      ∀ c, (decode bytes).toList.getLast? = some c → isBlank c = false := by
  refine ⟨((Utf8.lossy bytes).toList.reverse.takeWhile isBlank).reverse, ?_, ?_, ?_⟩
  · unfold decode trimEnd
    rw [← String.ofList_append, ← List.reverse_append, List.takeWhile_append_dropWhile,
      List.reverse_reverse, String.ofList_toList]
  · intro c hc
    exact List.all_eq_true.mp (List.all_takeWhile ..) c (List.mem_reverse.mp hc)
  · intro c hc
    unfold decode trimEnd at hc
    rw [String.toList_ofList, List.getLast?_reverse] at hc
    have hhead := List.head?_dropWhile_not isBlank (Utf8.lossy bytes).toList.reverse
    rw [hc] at hhead
    simpa using hhead

end
end EventLog.Source
