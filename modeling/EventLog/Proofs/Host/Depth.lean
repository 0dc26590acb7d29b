import EventLog.Proofs.Host.Crew

/-! The call depth of a thread next to the number of its live scopes. The depth stops counting at 255 and
does not remember how often it did, so that it comes back too low. By how much is known from the number
of scopes along the run. -/
namespace EventLog

namespace Context

theorem toNat_depth_enter (context : Context) :
    context.enter.depth.toNat = min (context.depth.toNat + 1) 255 := by
  have hbound := context.depth.toNat_lt
  unfold enter
  dsimp only
  split
  · next h =>
    rw [h]
    rfl
  · next h =>
    have hne : context.depth.toNat ≠ 255 := fun heq => h (UInt8.toNat_inj.mp heq)
    rw [UInt8.toNat_add, UInt8.toNat_one]
    omega

theorem toNat_depth_leave (context : Context) :
    context.leave.depth.toNat = context.depth.toNat - 1 := by
  unfold leave
  dsimp only
  split
  · next h =>
    rw [h]
    rfl
  · next h =>
    have hne : context.depth.toNat ≠ 0 := fun heq => h (UInt8.toNat_inj.mp heq)
    have hle : 1 ≤ context.depth := by
      rw [UInt8.le_iff_toNat_le, UInt8.toNat_one]
      omega
    rw [UInt8.toNat_sub_of_le _ _ hle, UInt8.toNat_one]

end Context

/-- Only by entering and leaving scopes does a thread change its depth. -/
theorem Host.depth_perform (host : Host) (worker : Worker) {action : Action}
    (henter : action ≠ .enter) (hleave : action ≠ .leave) :
    (host.perform worker action).worker.scopes = worker.scopes ∧
      (host.perform worker action).worker.context.depth = worker.context.depth := by
  cases action with
  | enter => exact absurd rfl henter
  | leave => exact absurd rfl hleave
  | lock full =>
    unfold perform
    dsimp only
    split <;> exact ⟨rfl, rfl⟩
  | unlock =>
    unfold perform
    dsimp only
    split <;> exact ⟨rfl, rfl⟩
  | init _ _ | cleanup | create _ _ | delete _ | reset _ | resetAll | register _ | log _ _ _ =>
    unfold perform
    rw [worker_changed]
    exact ⟨rfl, rfl⟩
  | snapshot _ | statuses =>
    unfold perform
    rw [worker_seen]
    exact ⟨rfl, rfl⟩
  | _ => exact ⟨rfl, rfl⟩

namespace Crew

/-- How many scopes a thread is in. -/
def live (crew : Crew) (me : ThreadId) : Nat := (crew.worker me).scopes

/-- The call depth that a thread reads. -/
def depth (crew : Crew) (me : ThreadId) : Nat := (crew.worker me).context.depth.toNat

/-- At some point of the run the thread was in `k` scopes more than the depth can count, and since then
never in fewer than `k`. -/
def Exceeded (crew : Crew) (me : ThreadId) (turns : List (ThreadId × Action)) (k : Nat) : Prop :=
  ∃ early late, turns = early ++ late ∧ 255 + k ≤ (crew.run early).live me ∧
    ∀ middle, middle <+: late → k ≤ (crew.run (early ++ middle)).live me

section
variable {crew : Crew} {me : ThreadId} {turns outer inner : List (ThreadId × Action)} {k : Nat}

theorem depth_le (crew : Crew) (me : ThreadId) : crew.depth me ≤ 255 :=
  Nat.le_of_lt_succ (crew.worker me).context.depth.toNat_lt

theorem live_enter (crew : Crew) (me : ThreadId) :
    (crew.step (me, .enter)).live me = crew.live me + 1 ∧
      (crew.step (me, .enter)).depth me = min (crew.depth me + 1) 255 := by
  unfold live depth
  rw [worker_step_self]
  exact ⟨rfl, Context.toNat_depth_enter _⟩

/-- A thread that is in no scope cannot leave one. -/
theorem live_leave (crew : Crew) (me : ThreadId) :
    (crew.step (me, .leave)).live me = crew.live me - 1 ∧
      (crew.step (me, .leave)).depth me =
        if crew.live me = 0 then crew.depth me else crew.depth me - 1 := by
  unfold live depth
  rw [worker_step_self]
  unfold Host.perform
  dsimp only
  split
  · next h => exact ⟨by rw [h], rfl⟩
  · exact ⟨rfl, Context.toNat_depth_leave _⟩

/-- What a turn does to a thread: it enters a scope, leaves one, or stays where it is. -/
theorem step_cases (crew : Crew) (turn : ThreadId × Action) (me : ThreadId) :
    ((crew.step turn).live me = crew.live me + 1 ∧
      (crew.step turn).depth me = min (crew.depth me + 1) 255) ∨
    (crew.live me = (crew.step turn).live me + 1 ∧
      (crew.step turn).depth me = crew.depth me - 1) ∨
    ((crew.step turn).live me = crew.live me ∧ (crew.step turn).depth me = crew.depth me) := by
  obtain ⟨other, action⟩ := turn
  by_cases hme : me = other
  · subst hme
    by_cases henter : action = .enter
    · subst henter
      exact .inl (crew.live_enter me)
    by_cases hleave : action = .leave
    · subst hleave
      obtain ⟨hlive, hdepth⟩ := crew.live_leave me
      split at hdepth <;> omega
    obtain ⟨hlive, hdepth⟩ := crew.host.depth_perform (crew.worker me) henter hleave
    rw [← worker_step_self] at hlive hdepth
    exact .inr (.inr ⟨hlive, congrArg UInt8.toNat hdepth⟩)
  · have hsame : (crew.step (other, action)).worker me = crew.worker me :=
      crew.worker_step_of_ne hme
    unfold live depth
    rw [hsame]
    exact .inr (.inr ⟨rfl, rfl⟩)

theorem exceeded_nil : Exceeded crew me [] k ↔ 255 + k ≤ crew.live me := by
  constructor
  · rintro ⟨early, late, hturns, hlive, -⟩
    obtain ⟨rfl, rfl⟩ := List.nil_eq_append_iff.mp hturns
    exact hlive
  · intro h
    refine ⟨[], [], rfl, h, fun middle hmiddle => ?_⟩
    obtain rfl := List.prefix_nil.mp hmiddle
    exact Nat.le_trans (Nat.le_add_left k 255) h

/-- A run one turn longer has the point at its end, or has it before and has not fallen below `k`. -/
theorem exceeded_concat (turn : ThreadId × Action) :
    Exceeded crew me (turns ++ [turn]) k ↔
      255 + k ≤ (crew.run (turns ++ [turn])).live me ∨
        Exceeded crew me turns k ∧ k ≤ (crew.run (turns ++ [turn])).live me := by
  constructor
  · rintro ⟨early, late, hturns, hlive, hlate⟩
    rcases List.eq_nil_or_concat late with rfl | ⟨late, last, rfl⟩
    · rw [List.append_nil] at hturns
      subst hturns
      exact .inl hlive
    · rw [List.concat_eq_append] at hturns hlate
      rw [← List.append_assoc] at hturns
      obtain ⟨rfl, hlast⟩ := List.append_inj' hturns rfl
      cases hlast
      refine .inr ⟨⟨early, late, rfl, hlive, fun middle hmiddle => ?_⟩, ?_⟩
      · exact hlate middle (hmiddle.trans (List.prefix_append late _))
      · rw [List.append_assoc]
        exact hlate _ (List.prefix_refl _)
  · rintro (hlive | ⟨⟨early, late, rfl, hlive, hlate⟩, hlast⟩)
    · refine ⟨turns ++ [turn], [], (List.append_nil _).symm, hlive, fun middle hmiddle => ?_⟩
      obtain rfl := List.prefix_nil.mp hmiddle
      rw [List.append_nil]
      exact Nat.le_trans (Nat.le_add_left k 255) hlive
    · refine ⟨early, late ++ [turn], List.append_assoc .., hlive, fun middle hmiddle => ?_⟩
      rcases List.prefix_concat_iff.mp hmiddle with rfl | hmiddle
      · rw [← List.append_assoc]
        exact hlast
      · exact hlate middle hmiddle

/-- The depth falls short by `k` if as many scopes were once entered that it could not count, and have
stayed, or if it did so at the start and the thread has stayed in `k` scopes. -/
theorem depth_add_le_live_iff (crew : Crew) (me : ThreadId) (turns : List (ThreadId × Action))
    (k : Nat) :
    (crew.run turns).depth me + k ≤ (crew.run turns).live me ↔
      Exceeded crew me turns k ∨
        crew.depth me + k ≤ crew.live me ∧
          ∀ early, early <+: turns → k ≤ (crew.run early).live me := by
  induction turns using List.reverseRecOn with
  | nil =>
    have hbound := crew.depth_le me
    rw [exceeded_nil]
    show crew.depth me + k ≤ crew.live me ↔ _
    constructor
    · intro h
      refine .inr ⟨h, fun early hearly => ?_⟩
      obtain rfl := List.prefix_nil.mp hearly
      exact Nat.le_trans (Nat.le_add_left _ _) h
    · rintro (h | ⟨h, -⟩)
      · omega
      · exact h
  | append_singleton turns turn ih =>
    have hkept : (∀ early, early <+: turns ++ [turn] → k ≤ (crew.run early).live me) ↔
        (∀ early, early <+: turns → k ≤ (crew.run early).live me) ∧
          k ≤ (crew.run (turns ++ [turn])).live me := by
      simp only [List.prefix_concat_iff, or_imp, forall_and, forall_eq]
      exact and_comm
    have hbound := (crew.run turns).depth_le me
    rw [exceeded_concat, hkept, ← and_assoc, or_assoc, ← or_and_right, ← ih, run_concat]
    rcases (crew.run turns).step_cases turn me with ⟨hlive, hdepth⟩ | ⟨hlive, hdepth⟩ |
      ⟨hlive, hdepth⟩ <;> omega

/-- The thread leaves after these turns the scope that it enters before them. -/
structure Nested (crew : Crew) (me : ThreadId) (inner : List (ThreadId × Action)) : Prop where
  stays : ∀ early, early <+: inner →
    crew.live me < (crew.run ((me, .enter) :: early)).live me
  returns : (crew.run ((me, .enter) :: inner)).live me = crew.live me + 1

/-- A scope with what is done in it. -/
def scope (me : ThreadId) (inner : List (ThreadId × Action)) : List (ThreadId × Action) :=
  (me, .enter) :: (inner ++ [(me, .leave)])

/-- A scope in which nothing is done. -/
theorem nested_nil (crew : Crew) (me : ThreadId) : Nested crew me [] where
  stays early hearly := by
    obtain rfl := List.prefix_nil.mp hearly
    exact Nat.lt_of_succ_le (Nat.le_of_eq (live_enter crew me).1.symm)
  returns := (live_enter crew me).1

namespace Nested

theorem live_scope (h : Nested crew me inner) :
    (crew.run (scope me inner)).live me = crew.live me := by
  unfold scope
  rw [← List.cons_append, run_concat, (live_leave _ me).1, h.returns]
  rfl

/-- The beginnings of the scope: before it, within it, and all of it. -/
theorem prefix_cases (h : Nested crew me inner) {early : List (ThreadId × Action)}
    (hearly : early <+: scope me inner) :
    (crew.run early).live me = crew.live me ∨
      ∃ within, within <+: inner ∧ early = (me, .enter) :: within := by
  rcases List.prefix_cons_iff.mp hearly with rfl | ⟨within, rfl, hwithin⟩
  · exact .inl rfl
  rcases List.prefix_concat_iff.mp hwithin with rfl | hwithin
  · exact .inl h.live_scope
  · exact .inr ⟨within, hwithin, rfl⟩

theorem live_le (h : Nested crew me inner) {early : List (ThreadId × Action)}
    (hearly : early <+: scope me inner) : crew.live me ≤ (crew.run early).live me := by
  rcases h.prefix_cases hearly with hsame | ⟨within, hwithin, rfl⟩
  · exact Nat.le_of_eq hsame.symm
  · exact Nat.le_of_lt (h.stays within hwithin)

/-- A scope loses of the depth what is entered in it beyond what the depth has left to count. -/
theorem exceeded_iff (h : Nested crew me inner) (hle : crew.depth me ≤ crew.live me) :
    Exceeded crew me (scope me inner) (crew.live me - crew.depth me + 1) ↔
      crew.depth me ≠ 0 ∧ ∃ early, early <+: inner ∧
        crew.live me + 255 < (crew.run ((me, .enter) :: early)).live me + crew.depth me := by
  have hbound := crew.depth_le me
  constructor
  · rintro ⟨early, late, hturns, hlive, hlate⟩
    have hend := hlate late (List.prefix_refl late)
    rw [← hturns, h.live_scope] at hend
    refine ⟨by omega, ?_⟩
    rcases h.prefix_cases ⟨late, hturns.symm⟩ with hsame | ⟨within, hwithin, rfl⟩
    · omega
    · exact ⟨within, hwithin, by omega⟩
  · rintro ⟨hdepth, early, ⟨late, rfl⟩, hlive⟩
    refine ⟨(me, .enter) :: early, late ++ [(me, .leave)], by simp [scope], by omega, ?_⟩
    intro middle ⟨rest, hrest⟩
    have hmiddle : (me, .enter) :: early ++ middle <+: scope me (early ++ late) :=
      ⟨rest, by simp [scope, hrest]⟩
    have hstays := h.live_le hmiddle
    omega

/-- A scope gives back the depth that it found if that was zero, or if the depth could count all that was
entered in it. -/
theorem depth_scope_iff (h : Nested crew me inner) (hle : crew.depth me ≤ crew.live me) :
    (crew.run (scope me inner)).depth me = crew.depth me ↔
      crew.depth me = 0 ∨ ∀ early, early <+: inner →
        (crew.run ((me, .enter) :: early)).live me + crew.depth me ≤ crew.live me + 255 := by
  have hkept := (crew.depth_add_le_live_iff me (scope me inner) (crew.live me - crew.depth me)).mpr
    (.inr ⟨by omega, fun early hearly => Nat.le_trans (Nat.sub_le _ _) (h.live_le hearly)⟩)
  have hlost := crew.depth_add_le_live_iff me (scope me inner) (crew.live me - crew.depth me + 1)
  rw [h.live_scope] at hkept hlost
  have hrestored : (crew.run (scope me inner)).depth me = crew.depth me ↔
      ¬ Exceeded crew me (scope me inner) (crew.live me - crew.depth me + 1) := by
    constructor
    · intro hdepth hexceeded
      have hshort := hlost.mpr (.inl hexceeded)
      omega
    · intro hexceeded
      have hshort := mt hlost.mp (not_or.mpr ⟨hexceeded, fun hstart => by omega⟩)
      omega
  rw [hrestored, h.exceeded_iff hle]
  simp only [not_and_or, not_not, not_exists, Nat.not_lt, ne_eq, ← imp_iff_not_or]

end Nested
end

section
variable {host : Host} {me : ThreadId} {turns : List (ThreadId × Action)} {k : Nat}

theorem depth_le_live (host : Host) (me : ThreadId) (turns : List (ThreadId × Action)) :
    (run { host } turns).depth me ≤ (run { host } turns).live me :=
  (depth_add_le_live_iff { host } me turns 0).mpr
    (.inr ⟨Nat.le_refl 0, fun _ _ => Nat.zero_le _⟩)

/-- A thread that starts in no scope. -/
theorem depth_add_le_live_iff_exceeded (hk : 0 < k) :
    (run { host } turns).depth me + k ≤ (run { host } turns).live me ↔
      Exceeded { host } me turns k := by
  rw [depth_add_le_live_iff]
  refine or_iff_left fun hstart => ?_
  have hlive : 0 + k ≤ 0 := hstart.1
  omega

/-- When the depth follows the live scopes. It is their number, up to 255, unless more were entered beyond
255 than are live beyond it now, and stayed. It is zero where no scope is live, and where as many as are
live were entered beyond 255, and stayed. A scope gives back the depth that it found if that was zero, or
if the depth could count all that was entered in it. -/
theorem depth_follows_live_iff (host : Host) (me : ThreadId) :
    (∀ turns crew, run { host } turns = crew →
      (crew.depth me = min (crew.live me) 255 ↔
        ¬ Exceeded { host } me turns (crew.live me - 255 + 1)) ∧
      (crew.depth me = 0 ↔ crew.live me = 0 ∨ Exceeded { host } me turns (crew.live me))) ∧
    ∀ turns inner crew, run { host } turns = crew → Nested crew me inner →
      ((crew.run (scope me inner)).depth me = crew.depth me ↔
        crew.depth me = 0 ∨ ∀ early, early <+: inner →
          (crew.run ((me, .enter) :: early)).live me + crew.depth me ≤ crew.live me + 255) := by
  refine ⟨?_, ?_⟩
  · rintro turns crew rfl
    have hle := depth_le_live host me turns
    have hbound := (run { host } turns).depth_le me
    constructor
    · rw [← depth_add_le_live_iff_exceeded (Nat.succ_pos _)]
      omega
    · by_cases hnone : (run { host } turns).live me = 0
      · exact iff_of_true (by omega) (.inl hnone)
      · rw [← depth_add_le_live_iff_exceeded (Nat.pos_of_ne_zero hnone)]
        omega
  · rintro turns inner crew rfl hnested
    exact hnested.depth_scope_iff (depth_le_live host me turns)

/-- What is left of the depth after scopes are entered and then left. -/
theorem run_enter_leave (host : Host) (me : ThreadId) (n left : Nat) :
    (run { host } (List.replicate n (me, .enter) ++ List.replicate left (me, .leave))).live me =
        n - left ∧
      (run { host } (List.replicate n (me, .enter) ++ List.replicate left (me, .leave))).depth me =
        min n 255 - left := by
  induction left with
  | zero =>
    rw [List.replicate_zero, List.append_nil]
    induction n with
    | zero => exact ⟨rfl, rfl⟩
    | succ n ih =>
      rw [List.replicate_succ', run_concat, (live_enter _ me).1, (live_enter _ me).2, ih.1, ih.2]
      omega
  | succ left ih =>
    rw [List.replicate_succ', ← List.append_assoc, run_concat, (live_leave _ me).1,
      (live_leave _ me).2, ih.1, ih.2]
    split <;> omega

end

/-- A crew one of whose threads has entered scopes. -/
def entered (n : Nat) : Crew :=
  run { host := { store := Store.ofConfig {} } } (List.replicate n (0, .enter))

theorem entered_leave (n left : Nat) :
    ((entered n).run (List.replicate left (0, .leave))).live 0 = n - left ∧
      ((entered n).run (List.replicate left (0, .leave))).depth 0 = min n 255 - left := by
  unfold entered
  rw [← run_append]
  exact run_enter_leave _ 0 n left

/-- The depth can count one scope more at 254, and none at 255. -/
theorem depth_follows_live_iff_entered :
    ((entered 254).run (scope 0 [])).depth 0 = (entered 254).depth 0 ∧
      ((entered 255).run (scope 0 [])).depth 0 ≠ (entered 255).depth 0 := by
  have hscope (n : Nat) : ((entered n).run (scope 0 [])).depth 0 = (entered n).depth 0 ↔
      (entered n).depth 0 ≤ 254 := by
    have hlive : ((entered n).run [(0, .enter)]).live 0 = (entered n).live 0 + 1 :=
      (live_enter _ 0).1
    rw [(depth_follows_live_iff { store := Store.ofConfig {} } 0).2 (List.replicate n (0, .enter)) []
      (entered n) rfl (nested_nil _ 0)]
    simp only [List.prefix_nil, forall_eq, hlive]
    omega
  have hdepth (n : Nat) : (entered n).depth 0 = min n 255 := (entered_leave n 0).2
  rw [ne_eq, hscope, hscope, hdepth, hdepth]
  decide

/-- A scope that is left at the greatest depth does not give it back, and of 256 scopes the last one is
live at a depth of zero. -/
theorem depth_comes_back_too_low :
    ((entered 256).run [(0, .leave)]).live 0 = 255 ∧
      ((entered 256).run [(0, .leave)]).depth 0 = 254 ∧
      ((entered 256).run (List.replicate 255 (0, .leave))).live 0 = 1 ∧
      ((entered 256).run (List.replicate 255 (0, .leave))).depth 0 = 0 := by
  obtain ⟨hlive, hdepth⟩ := entered_leave 256 1
  obtain ⟨hlast, hzero⟩ := entered_leave 256 255
  exact ⟨hlive, hdepth, hlast, hzero⟩

end Crew
end EventLog
