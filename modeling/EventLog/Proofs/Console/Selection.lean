import EventLog.Proofs.Console.Session
import EventLog.Proofs.Text.Blank
import EventLog.Proofs.Text.Numeral

/-! The choice of a buffer on the console: which lines ask for one, and which answers name one. -/
namespace EventLog.Command

/-- A decimal numeral, or a hexadecimal one after `0x`. -/
inductive IdText : List Char → Nat → Prop
  | decimal {body : List Char} {n : Nat} (h : Numeral.Spells 10 body n) : IdText body n
  | hex {x : Char} {body : List Char} {n : Nat} (hx : x = 'x' ∨ x = 'X')
      (h : Numeral.Spells 16 body n) : IdText ('0' :: x :: body) n

section
variable {line text : String} {body rest : List Char} {n : Nat} {x : Char}

/-- The `x` of a hexadecimal numeral is no decimal digit. -/
theorem not_spells_hex (hx : x = 'x' ∨ x = 'X') : ¬ Numeral.Spells 10 ('0' :: x :: rest) n := by
  intro h
  cases h with
  | bare hds =>
    obtain ⟨d, hd⟩ := hds.isDigit_of_mem (show x ∈ '0' :: x :: rest by simp)
    have hcode := (Numeral.isDigit_iff (by decide)).mp hd
    rcases hx with rfl | rfl
    · rw [show 'x'.toNat = 0x78 from rfl] at hcode
      omega
    · rw [show 'X'.toNat = 0x58 from rfl] at hcode
      omega

theorem idText_hex_iff (hx : x = 'x' ∨ x = 'X') :
    IdText ('0' :: x :: rest) n ↔ Numeral.Spells 16 rest n := by
  constructor
  · intro h
    cases h with
    | decimal h => exact absurd h (not_spells_hex hx)
    | hex _ h => exact h
  · exact .hex hx

theorem idText_decimal_iff (hbody : ∀ rest, body ≠ '0' :: 'x' :: rest ∧ body ≠ '0' :: 'X' :: rest) :
    IdText body n ↔ Numeral.Spells 10 body n := by
  constructor
  · intro h
    cases h with
    | decimal h => exact h
    | @hex x rest _ hx h =>
      rcases hx with rfl | rfl
      · exact absurd rfl (hbody rest).1
      · exact absurd rfl (hbody rest).2
  · exact .decimal

theorem isBlank_of_spells {base : Nat} (hbase : base ≤ 16) (h : Numeral.Spells base body n) :
    ∀ c ∈ body, isBlank c = false := by
  have hdigits {ds : List Char} (hds : Numeral.Digits base ds n) : ∀ c ∈ ds, isBlank c = false := by
    intro c hc
    obtain ⟨d, hd⟩ := hds.isDigit_of_mem hc
    have hcode := (Numeral.isDigit_iff hbase).mp hd
    exact isBlank_of_code (by omega) (by omega)
  cases h with
  | bare hds => exact hdigits hds
  | signed hds => exact List.forall_mem_cons.mpr ⟨by decide, hdigits hds⟩

namespace IdText

theorem ne_nil (h : IdText body n) : body ≠ [] := by
  cases h with
  | decimal h =>
    cases h with
    | bare hds => exact hds.ne_nil
    | signed _ => exact List.cons_ne_nil _ _
  | hex _ _ => exact List.cons_ne_nil _ _

/-- There is no white space in an id. -/
theorem stripped (h : IdText body n) : Stripped body body := by
  apply Stripped.of_no_blank
  cases h with
  | decimal h => exact isBlank_of_spells (by decide) h
  | @hex x rest _ hx h =>
    have hx : isBlank x = false := by rcases hx with rfl | rfl <;> decide
    exact List.forall_mem_cons.mpr ⟨by decide, List.forall_mem_cons.mpr
      ⟨hx, isBlank_of_spells (by decide) h⟩⟩

end IdText

/-- An answer names a buffer exactly if it is an id with white space around it. -/
theorem bufferId?_eq_some_iff :
    bufferId? text = some n ↔ n < 2 ^ 64 ∧ ∃ body, Stripped text.toList body ∧ IdText body n := by
  have hbody : (∃ body, Stripped text.toList body ∧ IdText body n) ↔
      IdText (trim text.toList) n := by
    simp [stripped_iff]
  rw [hbody, and_comm]
  unfold bufferId?
  split
  · next rest htrim =>
    rw [htrim, idText_hex_iff (.inl rfl)]
    exact Numeral.read?_eq_some_iff (by decide)
  · next rest htrim =>
    rw [htrim, idText_hex_iff (.inr rfl)]
    exact Numeral.read?_eq_some_iff (by decide)
  · next hlower hupper =>
    rw [idText_decimal_iff fun rest => ⟨hlower rest, hupper rest⟩]
    exact Numeral.read?_eq_some_iff (by decide)

/-- A command depends on the body of its line only. -/
theorem parse_ofList (h : Stripped line.toList body) : parse line = parse (String.ofList body) := by
  unfold parse
  rw [String.toList_ofList, stripped_iff.mp h, stripped_iff.mp h.again]

theorem argument?_eq_iff {answer : Option String} :
    argument? rest = answer ↔ ∃ argument, Stripped rest argument ∧
      answer = if argument = [] then none else some (String.ofList argument) := by
  unfold argument?
  simp only [stripped_iff, exists_eq_left', List.isEmpty_iff]
  exact eq_comm

theorem parse_eq_selectBuffer_iff {answer : Option String} :
    parse line = selectBuffer answer ↔
      ∃ rest, Stripped line.toList ('2' :: rest) ∧ argument? rest = answer := by
  simp only [stripped_iff]
  unfold parse
  split <;> simp_all

/-- An answer that names a buffer makes it the active one, whatever becomes of the output. -/
theorem active_select {answer : String} (h : bufferId? answer = some n) (session : Session) :
    ((Session.select answer).run session).2.active = n := by
  unfold Session.select
  rw [h]
  rfl

theorem bufferId?_of_idText (hn : n < 2 ^ 64) (h : IdText body n) :
    bufferId? (String.ofList body) = some n := by
  apply bufferId?_eq_some_iff.mpr
  rw [String.toList_ofList]
  exact ⟨hn, body, h.stripped, h⟩

/-- The decimal spelling of an id and its hexadecimal one both name it. -/
theorem bufferId?_spellings (hn : n < 2 ^ 64) :
    bufferId? (Numeral.decimal n) = some n ∧ bufferId? ("0x" ++ Numeral.hex n) = some n := by
  have hdecimal : IdText (Numeral.digits 10 n) n :=
    .decimal (.bare (Numeral.digits_digits (by decide) (by decide) n))
  have hhex : IdText ('0' :: 'x' :: Numeral.digits 16 n) n :=
    .hex (.inl rfl) (.bare (Numeral.digits_digits (by decide) (by decide) n))
  refine ⟨bufferId?_of_idText hn hdecimal, ?_⟩
  have htext : "0x" ++ Numeral.hex n = String.ofList ('0' :: 'x' :: Numeral.digits 16 n) := by
    unfold Numeral.hex
    rw [← String.toList_inj]
    simp
  rw [htext]
  exact bufferId?_of_idText hn hhex

/-- The choice of a buffer on one line, with white space wherever it may stand. -/
theorem parse_choice {front gap back : List Char} (hfront : AllBlank front) (hgap : AllBlank gap)
    (hback : AllBlank back) (h : bufferId? text = some n) :
    ∃ answer,
      parse (String.ofList (front ++ '2' :: (gap ++ text.toList) ++ back)) =
        selectBuffer (some answer) ∧
      bufferId? answer = some n := by
  obtain ⟨hn, body, ⟨⟨before, after, htext, hbefore, hafter⟩, hhead, hlast⟩, hid⟩ :=
    bufferId?_eq_some_iff.mp h
  have hrest : Stripped (gap ++ before ++ body) body :=
    ⟨⟨gap ++ before, [], by simp, hgap.append hbefore, nofun⟩, hhead, hlast⟩
  have hline : Stripped (front ++ '2' :: (gap ++ text.toList) ++ back)
      ('2' :: (gap ++ before ++ body)) := by
    refine ⟨⟨front, after ++ back, ?_, hfront, hafter.append hback⟩, ?_, ?_⟩
    · simp [htext]
    · intro c hc
      obtain rfl : '2' = c := Option.some.inj hc
      decide
    · intro c hc
      apply hlast
      rw [← hc, ← List.cons_append, List.getLast?_append_of_ne_nil _ hid.ne_nil]
  refine ⟨String.ofList body, ?_, bufferId?_of_idText hn hid⟩
  rw [parse_eq_selectBuffer_iff]
  refine ⟨_, by rwa [String.toList_ofList], ?_⟩
  exact argument?_eq_iff.mpr ⟨body, hrest, by rw [if_neg hid.ne_nil]⟩

end

/-- A text has one body, what is left of it without the white space at its ends. It names a buffer exactly
if its body is a decimal numeral, or a hexadecimal one after `0x` or `0X`, with a value below 2^64; the
sign, the digits and the zeros in front are those of the grammar of numerals. Both spellings of an id name
it. A command depends on the body of its line. It is the choice of a buffer exactly if the body starts
with a `2`, and then the body of the rest is the answer, unless nothing is left; so a `2` and an id, with
white space wherever it may stand, choose the buffer with this id. -/
theorem selection_follows_grammar :
    (∀ text, ∃! body, Stripped text body) ∧
    (∀ text n, bufferId? text = some n ↔
      n < 2 ^ 64 ∧ ∃ body, Stripped text.toList body ∧ IdText body n) ∧
    (∀ n < 2 ^ 64,
      bufferId? (Numeral.decimal n) = some n ∧ bufferId? ("0x" ++ Numeral.hex n) = some n) ∧
    (∀ (line : String) body, Stripped line.toList body → parse line = parse (String.ofList body)) ∧
    (∀ line answer, parse line = selectBuffer answer ↔
      ∃ rest argument, Stripped line.toList ('2' :: rest) ∧ Stripped rest argument ∧
        answer = if argument = [] then none else some (String.ofList argument)) ∧
    ∀ front gap back, AllBlank front → AllBlank gap → AllBlank back →
      ∀ text n, bufferId? text = some n →
        ∃ answer,
          parse (String.ofList (front ++ '2' :: (gap ++ text.toList) ++ back)) =
            selectBuffer (some answer) ∧
          ∀ session, ((Session.select answer).run session).2.active = n := by
  refine ⟨?_, fun _ _ => bufferId?_eq_some_iff, fun _ => bufferId?_spellings,
    fun _ _ => parse_ofList, ?_, ?_⟩
  · intro text
    exact ⟨trim text, stripped_trim text, fun body hbody => (stripped_iff.mp hbody).symm⟩
  · intro line answer
    rw [parse_eq_selectBuffer_iff]
    simp only [argument?_eq_iff, exists_and_left]
  · intro front gap back hfront hgap hback text n htext
    obtain ⟨answer, hparse, hanswer⟩ := parse_choice hfront hgap hback htext
    exact ⟨answer, hparse, active_select hanswer⟩

/-- A sign, zeros in front and letters of either case, behind white space that is not ASCII. -/
def signedHex : List Char := ['\u00A0', '0', 'X', '+', '0', '0', 'f', 'F']

theorem selection_follows_grammar_signedHex :
    bufferId? (String.ofList signedHex) = some 255 ∧
    ∃ answer,
      parse (String.ofList (['\t'] ++ '2' :: (['\u3000'] ++ signedHex) ++ ['\r'])) =
        selectBuffer (some answer) ∧
      ∀ session, ((Session.select answer).run session).2.active = 255 := by
  have hdigit (c : Char) (d : Nat) (h : Numeral.digitValue? 16 c = some d) :
      Numeral.IsDigit 16 c d := (Numeral.digitValue?_eq_some_iff (by decide)).mp h
  have hdigits : Numeral.Digits 16 ['0', '0', 'f', 'F'] 255 :=
    .more (.more (.more (.one (hdigit '0' 0 rfl)) (hdigit '0' 0 rfl)) (hdigit 'f' 15 rfl))
      (hdigit 'F' 15 rfl)
  have hstripped : Stripped signedHex ['0', 'X', '+', '0', '0', 'f', 'F'] :=
    stripped_iff.mpr (by decide)
  obtain ⟨-, hid, -, -, -, hchoice⟩ := selection_follows_grammar
  have htext : bufferId? (String.ofList signedHex) = some 255 := by
    apply (hid _ _).mpr
    rw [String.toList_ofList]
    exact ⟨by decide, _, hstripped, .hex (.inr rfl) (.signed hdigits)⟩
  have hanswer := hchoice ['\t'] ['\u3000'] ['\r'] (by decide) (by decide) (by decide) _ _ htext
  rw [String.toList_ofList] at hanswer
  exact ⟨htext, hanswer⟩

end EventLog.Command
