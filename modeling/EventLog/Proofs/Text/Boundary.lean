import EventLog.Context
import EventLog.Proofs.Text.Cut
import EventLog.Proofs.Text.Field

/-! Boundaries of characters, told from the bytes of a text alone. Such a boundary is a place where a
beginning of the text ends, so that looking for one backwards from a limit finds the longest beginning
that fits it. -/
namespace EventLog
namespace Utf8

/-- Whether a byte starts a character; a byte that continues one has the bits 10 in front. -/
def starts (b : UInt8) : Bool := b < 0x80 || 0xC0 ≤ b

def isBoundary (bytes : Bytes) (index : Nat) : Bool :=
  index == 0 ||
    match bytes[index]? with
    | some b => starts b
    | none => index == bytes.length

/-- The search for a boundary, one step back at a time; none when it would pass the first byte. -/
def boundaryBelow? (bytes : Bytes) : Nat → Option Nat
  | 0 => if isBoundary bytes 0 then some 0 else none
  | index + 1 =>
    if isBoundary bytes (index + 1) then some (index + 1) else boundaryBelow? bytes index

/-- Cuts bytes to the nearest boundary at or below the limit, unless they all fit. -/
def truncate? (bytes : Bytes) (room : Nat) : Option Bytes :=
  if bytes.length ≤ room then some bytes else (boundaryBelow? bytes room).map bytes.take

section
variable {bytes : Bytes} {cs start : List Char} {index room : Nat}

theorem starts_ofNat {n : Nat} (hn : n < 256) :
    starts (UInt8.ofNat n) = true ↔ n < 0x80 ∨ 0xC0 ≤ n := by
  unfold starts
  rw [Bool.or_eq_true, decide_eq_true_eq, decide_eq_true_eq, UInt8.lt_iff_toNat_lt,
    UInt8.le_iff_toNat_le, toNat_ofNat hn]
  rfl

/-- The first byte of a character starts it, and no other does. -/
theorem encodeChar_eq_cons (c : Char) :
    ∃ b tail, encodeChar c = b :: tail ∧ starts b = true ∧ ∀ t ∈ tail, starts t = false := by
  have hcode := char_bounds c
  have hmore (n : Nat) : starts (UInt8.ofNat (0x80 + n % 0x40)) = false := by
    rw [Bool.eq_false_iff, Ne, starts_ofNat (by omega)]
    omega
  unfold encodeChar
  dsimp only
  split_ifs
  all_goals refine ⟨_, _, rfl, (starts_ofNat (by omega)).mpr (by omega), ?_⟩
  all_goals simp only [List.forall_mem_cons, List.not_mem_nil, false_implies, implies_true,
    hmore, and_self]

theorem isBoundary_zero (bytes : Bytes) : isBoundary bytes 0 = true := rfl

theorem isBoundary_of_pos (hpos : 0 < index) :
    isBoundary bytes index = (bytes[index]?.map starts).getD (index == bytes.length) := by
  unfold isBoundary
  rw [beq_false_of_ne (Nat.ne_of_gt hpos), Bool.false_or]
  cases bytes[index]? <;> rfl

/-- Written text starts at a byte that starts a character, if it is not empty. -/
theorem starts_head (cs : List Char) :
    ((encodeChars cs)[0]?.map starts).getD (0 == (encodeChars cs).length) = true := by
  cases cs with
  | nil => rfl
  | cons c cs =>
    obtain ⟨b, tail, hc, hstarts, -⟩ := encodeChar_eq_cons c
    rw [encodeChars, List.flatMap_cons, hc]
    exact hstarts

/-- Within the first character there is no boundary; behind it are those of the rest. -/
theorem isBoundary_cons (c : Char) (cs : List Char) (index : Nat) :
    isBoundary (encodeChars (c :: cs)) index = true ↔
      index = 0 ∨ c.utf8Size ≤ index ∧ isBoundary (encodeChars cs) (index - c.utf8Size) = true := by
  have hbytes : encodeChars (c :: cs) = encodeChar c ++ encodeChars cs := List.flatMap_cons
  have hsize := length_encodeChar c
  rcases Nat.eq_zero_or_pos index with rfl | hpos
  · exact iff_of_true (isBoundary_zero _) (.inl rfl)
  rw [isBoundary_of_pos hpos, or_iff_right (Nat.ne_of_gt hpos), hbytes, List.length_append, hsize]
  by_cases hinside : index < c.utf8Size
  -- The byte at the index continues the character.
  · obtain ⟨b, tail, hc, -, htail⟩ := encodeChar_eq_cons c
    have hget : ∃ t ∈ tail, (encodeChar c ++ encodeChars cs)[index]? = some t := by
      have hlt : index - 1 < tail.length := by
        rw [hc, List.length_cons] at hsize
        omega
      refine ⟨tail[index - 1], List.getElem_mem hlt, ?_⟩
      rw [List.getElem?_append_left (by omega), hc, List.getElem?_cons, if_neg (Nat.ne_of_gt hpos),
        List.getElem?_eq_getElem hlt]
    obtain ⟨t, hmem, hget⟩ := hget
    rw [hget, Option.map_some, Option.getD_some, htail t hmem]
    exact iff_of_false Bool.false_ne_true (fun h => by omega)
  -- The byte at the index is one of the rest, whose first byte counts as a boundary by its value here
  -- and by its index there.
  · obtain ⟨k, rfl⟩ : ∃ k, index = c.utf8Size + k := ⟨index - c.utf8Size, by omega⟩
    have hend : (c.utf8Size + k == c.utf8Size + (encodeChars cs).length) =
        (k == (encodeChars cs).length) := by
      rw [Bool.eq_iff_iff, beq_iff_eq, beq_iff_eq]
      omega
    rw [List.getElem?_append_right (by omega), hsize, Nat.add_sub_cancel_left, hend,
      and_iff_right (Nat.le_add_right _ k)]
    rcases Nat.eq_zero_or_pos k with rfl | hk
    · exact iff_of_true (starts_head cs) (isBoundary_zero _)
    · rw [isBoundary_of_pos hk]

/-- The boundaries of written text are the places where its beginnings end. -/
theorem isBoundary_encodeChars (cs : List Char) (index : Nat) :
    isBoundary (encodeChars cs) index = true ↔
      ∃ start, start <+: cs ∧ (encodeChars start).length = index := by
  induction cs generalizing index with
  | nil =>
    simp only [List.prefix_nil, exists_eq_left, isBoundary, encodeChars_nil, List.getElem?_nil,
      List.length_nil, Bool.or_self, beq_iff_eq]
    exact eq_comm
  | cons c cs ih =>
    rw [isBoundary_cons, ih]
    constructor
    · rintro (rfl | ⟨hsize, start, hstart, hlength⟩)
      · exact ⟨[], List.nil_prefix, rfl⟩
      · refine ⟨c :: start, List.cons_prefix_cons.mpr ⟨rfl, hstart⟩, ?_⟩
        rw [length_encodeChars_cons]
        omega
    · rintro ⟨start, hstart, rfl⟩
      cases start with
      | nil => exact .inl rfl
      | cons d start =>
        obtain ⟨rfl, hrest⟩ := List.cons_prefix_cons.mp hstart
        rw [length_encodeChars_cons, Nat.add_sub_cancel_left]
        exact .inr ⟨Nat.le_add_right _ _, start, hrest, rfl⟩

/-- The search finds the last boundary within the limit. -/
theorem boundaryBelow?_eq_some {found : Nat} (hfound : isBoundary bytes found = true)
    (hle : found ≤ room)
    (hlast : ∀ index ≤ room, isBoundary bytes index = true → index ≤ found) :
    boundaryBelow? bytes room = some found := by
  induction room with
  | zero =>
    obtain rfl : found = 0 := by omega
    rw [boundaryBelow?, if_pos hfound]
  | succ room ih =>
    unfold boundaryBelow?
    split
    · next hhere =>
      have := hlast (room + 1) (Nat.le_refl _) hhere
      rw [show room + 1 = found by omega]
    · next hhere =>
      have hne : found ≠ room + 1 := fun heq => hhere (heq ▸ hfound)
      exact ih (by omega) fun index hindex => hlast index (by omega)

end
end Utf8

/-- The longest beginning of a text that ends at a boundary and has at most so many bytes. -/
structure IsLongestBeginning (short text : String) (room : Nat) : Prop where
  beginning : Utf8.encode short <+: Utf8.encode text
  boundary : Utf8.isBoundary (Utf8.encode text) (Utf8.encode short).length = true
  fits : (Utf8.encode short).length ≤ room
  longest : ∀ index ≤ room, Utf8.isBoundary (Utf8.encode text) index = true →
    index ≤ (Utf8.encode short).length

section
variable {text : String} {room : Nat}

theorem isLongestBeginning_cut (text : String) (room : Nat) :
    IsLongestBeginning (cut text room) text room := by
  obtain ⟨⟨rest, hrest⟩, hfits, hlongest⟩ := cut_spec text room
  refine ⟨⟨Utf8.encodeChars rest, ?_⟩, ?_, hfits, ?_⟩
  · unfold Utf8.encode
    rw [← Utf8.encodeChars_append, hrest]
  · exact (Utf8.isBoundary_encodeChars _ _).mpr ⟨_, ⟨rest, hrest⟩, rfl⟩
  · intro index hindex hboundary
    obtain ⟨start, hstart, rfl⟩ := (Utf8.isBoundary_encodeChars _ _).mp hboundary
    exact length_encodeChars_le (hlongest start hstart hindex)

/-- A beginning that ends at the last boundary within the limit is what the search leaves. -/
theorem IsLongestBeginning.boundaryBelow?_eq {short : String}
    (h : IsLongestBeginning short text room) :
    Utf8.boundaryBelow? (Utf8.encode text) room = some (Utf8.encode short).length :=
  Utf8.boundaryBelow?_eq_some h.boundary h.fits h.longest

theorem cut_eq_self (hfits : (Utf8.encode text).length ≤ room) : cut text room = text := by
  unfold cut
  rw [fit_eq_self hfits, String.ofList_toList]

theorem truncate?_encode (text : String) (room : Nat) :
    Utf8.truncate? (Utf8.encode text) room = some (Utf8.encode (cut text room)) := by
  have hlongest := isLongestBeginning_cut text room
  unfold Utf8.truncate?
  split
  · next hfits => rw [cut_eq_self hfits]
  · rw [hlongest.boundaryBelow?_eq, Option.map_some,
      ← List.prefix_iff_eq_take.mp hlongest.beginning]

/-- The first character that is cut off is all that the rest of the room was too small for. -/
theorem lt_length_fit {cs : List Char} (hcut : room < (Utf8.encodeChars cs).length) :
    room < (Utf8.encodeChars (fit room cs)).length + 4 := by
  induction cs generalizing room with
  | nil => exact absurd hcut (Nat.not_lt_zero room)
  | cons c cs ih =>
    have hsize := Char.utf8Size_le_four c
    rw [Utf8.length_encodeChars_cons] at hcut
    unfold fit
    split
    · have hrest : room - c.utf8Size <
          (Utf8.encodeChars (fit (room - c.utf8Size) cs)).length + 4 := by
        apply ih
        omega
      rw [Utf8.length_encodeChars_cons]
      omega
    · rw [Utf8.encodeChars_nil, List.length_nil]
      omega

end

/-- A text that is cut keeps its longest beginning that ends at a boundary and fits the limit, the one
that a search backwards through the bytes comes to before it passes the first of them. A text that fits
is kept, and one that does not fit loses at most three bytes of the limit. Two cuts are one cut to the
smaller limit, so a slot shows the name that a thread has kept of its own. -/
theorem cut_keeps_longest (text : String) :
    (∀ room, IsLongestBeginning (cut text room) text room ∧
      Utf8.truncate? (Utf8.encode text) room = some (Utf8.encode (cut text room)) ∧
      ((Utf8.encode text).length ≤ room → cut text room = text) ∧
      (room < (Utf8.encode text).length →
        Utf8.boundaryBelow? (Utf8.encode text) room =
            some (Utf8.encode (cut text room)).length ∧
          room < (Utf8.encode (cut text room)).length + 4)) ∧
    (∀ index, Utf8.isBoundary (Utf8.encode text) index = true ↔
      ∃ start, start <+: text.toList ∧ (Utf8.encodeChars start).length = index) ∧
    (∀ a b, cut (cut text a) b = cut text (min a b)) ∧
    ∀ (context : Context) (field : Field Limits.threadCapacity),
      (context.setName text).name = cut text (Limits.threadCapacity - 1) ∧
        (field.set (context.setName text).name).text = (context.setName text).name := by
  refine ⟨fun room => ?_, Utf8.isBoundary_encodeChars _, cut_cut_min text, fun context field => ?_⟩
  · have hlongest := isLongestBeginning_cut text room
    refine ⟨hlongest, truncate?_encode text room, cut_eq_self, fun hcut => ?_⟩
    refine ⟨hlongest.boundaryBelow?_eq, ?_⟩
    unfold Utf8.encode cut
    rw [String.toList_ofList]
    exact lt_length_fit hcut
  · refine ⟨rfl, ?_⟩
    rw [Field.text_set]
    exact cut_cut text _

/-- A limit in the last byte of a character of four bytes. -/
theorem cut_keeps_longest_amidCharacter :
    4 < (Utf8.encode "a😀").length ∧ cut "a😀" 4 = "a" ∧
      Utf8.boundaryBelow? (Utf8.encode "a😀") 4 = some 1 ∧ 4 < (Utf8.encode "a").length + 4 := by
  have hcut : cut "a😀" 4 = "a" := by decide +kernel
  have hlong : 4 < (Utf8.encode "a😀").length := by decide +kernel
  obtain ⟨-, -, -, hsearch⟩ := (cut_keeps_longest "a😀").1 4
  obtain ⟨hfound, hroom⟩ := hsearch hlong
  rw [hcut] at hfound hroom
  exact ⟨hlong, hcut, hfound, hroom⟩

end EventLog
