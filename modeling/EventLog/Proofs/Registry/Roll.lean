import EventLog.Proofs.Registry.Numbering

/-! The ids that a registry hands out along any calls. Each belongs to one renderer, and whoever
registers that renderer again, or one that is the same, is given the same id. -/
namespace EventLog.Registry

inductive Action where
  | install
  /-- Any renderer may be handed in, a built-in one as well. -/
  | register (renderer : Renderer)

/-- A registry and the ids that its users were given, each with the renderer they came with. -/
structure Roll where
  registry : Registry
  issued : List (Renderer × EventType) := []

namespace Roll

def step (roll : Roll) : Action → Roll
  | .install => { roll with registry := roll.registry.installBuiltins }
  | .register renderer =>
    match roll.registry.register renderer with
    | (.ok type, registry) => { registry, issued := roll.issued ++ [(renderer, type)] }
    | (.error _, registry) => { roll with registry }

def run (roll : Roll) (actions : List Action) : Roll := actions.foldl step roll

/-- The type that a renderer was given belongs to the first one that was the same. -/
def Names (roll : Roll) (renderer : Renderer) (type : EventType) : Prop :=
  ∃ first, roll.issued.find? (fun given => given.1.same renderer) = some (first, type) ∧
    (type, first) ∈ roll.registry.entries

section
variable {capacity : Nat} {roll next : Roll} {renderer other : Renderer} {type : EventType}

namespace Names

theorem exists_entry (h : roll.Names renderer type) :
    ∃ first, (type, first) ∈ roll.registry.entries ∧ first.same renderer = true := by
  obtain ⟨first, hfind, hmem⟩ := h
  exact ⟨first, hmem, by simpa using List.find?_some hfind⟩

theorem of_same (h : roll.Names renderer type) (hsame : renderer.same other = true) :
    roll.Names other type := by
  have hcongr : (fun given : Renderer × EventType => given.1.same other) =
      fun given => given.1.same renderer := by
    funext given
    rw [Bool.eq_iff_iff]
    exact ⟨fun hgiven => Renderer.same_trans hgiven (Renderer.same_symm hsame),
      fun hgiven => Renderer.same_trans hgiven hsame⟩
  unfold Names
  rw [hcongr]
  exact h

/-- Names stay when more of them are given out. -/
theorem extend (h : roll.Names renderer type) {more : List (Renderer × EventType)}
    (hissued : next.issued = roll.issued ++ more)
    (hentries : roll.registry.entries ⊆ next.registry.entries) : next.Names renderer type := by
  obtain ⟨first, hfind, hmem⟩ := h
  refine ⟨first, ?_, hentries hmem⟩
  rw [hissued, List.find?_append, hfind]
  rfl

theorem of_new (hnew : ∀ given ∈ roll.issued, given.1.same renderer = false)
    (hissued : next.issued = roll.issued ++ [(renderer, type)])
    (hmem : (type, renderer) ∈ next.registry.entries) : next.Names renderer type := by
  refine ⟨renderer, ?_, hmem⟩
  have hnone : roll.issued.find? (fun given => given.1.same renderer) = none :=
    List.find?_eq_none.mpr fun given hgiven => by simp [hnew given hgiven]
  rw [hissued, List.find?_append, hnone]
  simp

end Names

/-- A registry with its built-in renderers: it is numbered, every id that was given out names the
renderer that it was given for, and every entry that is not built in was given to someone. -/
structure Ready (capacity registered : Nat) (roll : Roll) : Prop where
  initialized : roll.registry.initialized = true
  capacity_eq : roll.registry.capacity = capacity
  numbered : roll.registry.Numbered registered
  names : ∀ given ∈ roll.issued, roll.Names given.1 given.2
  given : ∀ entry ∈ roll.registry.entries,
    entry ∈ builtins ∨ (entry.2, entry.1) ∈ roll.issued

theorem step_register_ok {registry : Registry}
    (h : roll.registry.register renderer = (.ok type, registry)) :
    roll.step (.register renderer) =
      { registry, issued := roll.issued ++ [(renderer, type)] } := by
  simp [step, h]

theorem step_register_error {error : Error} {registry : Registry}
    (h : roll.registry.register renderer = (.error error, registry)) :
    roll.step (.register renderer) = { roll with registry } := by
  simp [step, h]

/-- A new entry is given to the one who registered it. -/
theorem given_enter
    (h : ∀ entry ∈ roll.registry.entries, entry ∈ builtins ∨ (entry.2, entry.1) ∈ roll.issued)
    (renderer : Renderer) :
    ∀ entry ∈ (roll.registry.enter renderer).entries,
      entry ∈ builtins ∨
        (entry.2, entry.1) ∈ roll.issued ++ [(renderer, roll.registry.next)] := by
  intro entry hentry
  rcases List.mem_append.mp hentry with hentry | hentry
  · exact (h entry hentry).imp_right (List.mem_append_left _)
  · rw [List.mem_singleton.mp hentry]
    exact .inr (List.mem_append_right _ List.mem_cons_self)

/-- Once the built-in renderers are there, a step gives a renderer that has an entry its type again,
enters a new one, or does nothing. -/
theorem step_cases (hinit : roll.registry.initialized = true) (action : Action) :
    roll.step action = roll ∨
      (∃ renderer, ∃ entry ∈ roll.registry.entries, entry.2.same renderer = true ∧
        roll.step action = { roll with issued := roll.issued ++ [(renderer, entry.1)] }) ∨
      ∃ renderer, (∀ entry ∈ roll.registry.entries, entry.2.same renderer = false) ∧
        roll.registry.entries.length < roll.registry.capacity ∧
        roll.step action =
          { registry := roll.registry.enter renderer
            issued := roll.issued ++ [(renderer, roll.registry.next)] } := by
  cases action with
  | install => exact .inl (by simp [step, installBuiltins_of_initialized hinit])
  | register renderer =>
    rcases register_cases roll.registry renderer with
      ⟨hearly, -⟩ |
      ⟨-, ⟨entry, hentry, hsame, hold⟩ | ⟨hnew, ⟨-, hfull⟩ | ⟨hroom, hregister⟩⟩⟩
    · rw [hinit] at hearly
      cases hearly
    · exact .inr (.inl ⟨renderer, entry, hentry, hsame, step_register_ok hold⟩)
    · exact .inl (step_register_error hfull)
    · exact .inr (.inr ⟨renderer, hnew, hroom, step_register_ok hregister⟩)

namespace Ready

variable {registered : Nat}

theorem install (capacity : Nat) :
    Ready capacity 0 { registry := Registry.installBuiltins { capacity } } where
  initialized := rfl
  capacity_eq := rfl
  numbered := Numbered.installBuiltins capacity
  names given hgiven := by cases hgiven
  given entry hentry := .inl hentry

/-- A renderer that is there is named by its entry, whether the entry is built in or was given out
before. -/
theorem names_of_entry (h : Ready capacity registered roll) {entry : EventType × Renderer}
    (hentry : entry ∈ roll.registry.entries) (hsame : entry.2.same renderer = true)
    (hissued : next.issued = roll.issued ++ [(renderer, entry.1)])
    (hregistry : next.registry = roll.registry) : next.Names renderer entry.1 := by
  by_cases hagain : ∃ given ∈ roll.issued, given.1.same renderer = true
  · obtain ⟨given, hgiven, hgivenSame⟩ := hagain
    have hnames := (h.names given hgiven).of_same hgivenSame
    obtain ⟨first, hfirst, hfirstSame⟩ := hnames.exists_entry
    have heq : (given.2, first) = entry := h.numbered.eq_of_same hfirst hentry
      (Renderer.same_trans hfirstSame (Renderer.same_symm hsame))
    rw [← heq]
    exact hnames.extend hissued (by rw [hregistry]; exact List.Subset.refl _)
  · have hnone : ∀ given ∈ roll.issued, given.1.same renderer = false := by
      intro given hgiven
      simpa using fun hsame => hagain ⟨given, hgiven, hsame⟩
    have hself : renderer = entry.2 := by
      rcases h.given entry hentry with hbuiltin | hgiven
      · exact eq_of_same_builtin hbuiltin hsame
      · exact absurd ⟨_, hgiven, hsame⟩ hagain
    exact .of_new hnone hissued (by rw [hregistry, hself]; exact hentry)

theorem again (h : Ready capacity registered roll) {entry : EventType × Renderer}
    (hentry : entry ∈ roll.registry.entries) (hsame : entry.2.same renderer = true) :
    Ready capacity registered { roll with issued := roll.issued ++ [(renderer, entry.1)] } where
  initialized := h.initialized
  capacity_eq := h.capacity_eq
  numbered := h.numbered
  names given hgiven := by
    rcases List.mem_append.mp hgiven with hgiven | hgiven
    · exact (h.names given hgiven).extend rfl (List.Subset.refl _)
    · obtain rfl := List.mem_singleton.mp hgiven
      exact h.names_of_entry hentry hsame rfl rfl
  given other hother := (h.given other hother).imp_right (List.mem_append_left _)

theorem enter (h : Ready capacity registered roll) (hcapacity : capacity ≤ 2 ^ 32 - 16)
    (hnew : ∀ entry ∈ roll.registry.entries, entry.2.same renderer = false)
    (hroom : roll.registry.entries.length < roll.registry.capacity) :
    Ready capacity (registered + 1)
      { registry := roll.registry.enter renderer
        issued := roll.issued ++ [(renderer, roll.registry.next)] } where
  initialized := h.initialized
  capacity_eq := h.capacity_eq
  numbered := h.numbered.enter (h.capacity_eq ▸ hcapacity) hnew hroom
  names given hgiven := by
    rcases List.mem_append.mp hgiven with hgiven | hgiven
    · exact (h.names given hgiven).extend rfl (List.subset_append_left _ _)
    · obtain rfl := List.mem_singleton.mp hgiven
      refine .of_new ?_ rfl (List.mem_append_right _ List.mem_cons_self)
      intro given hgiven
      obtain ⟨first, hfirst, hfirstSame⟩ := (h.names given hgiven).exists_entry
      by_contra hgivenSame
      have hsame := Renderer.same_trans hfirstSame (by simpa using hgivenSame)
      rw [hnew _ hfirst] at hsame
      cases hsame
  given := given_enter h.given renderer

/-- Two ids that were given out are one exactly when the renderers are the same. -/
theorem same_iff (h : Ready capacity registered roll) {a b : Renderer × EventType}
    (ha : a ∈ roll.issued) (hb : b ∈ roll.issued) : a.1.same b.1 = true ↔ a.2 = b.2 := by
  obtain ⟨first, hfirst, hfirstSame⟩ := (h.names a ha).exists_entry
  obtain ⟨second, hsecond, hsecondSame⟩ := (h.names b hb).exists_entry
  constructor
  · intro hsame
    have heq : (a.2, first) = (b.2, second) := h.numbered.eq_of_same hfirst hsecond
      (Renderer.same_trans (Renderer.same_trans hfirstSame hsame) (Renderer.same_symm hsecondSame))
    exact congrArg Prod.fst heq
  · intro htype
    have heq : (a.2, first) = (b.2, second) :=
      List.inj_on_of_nodup_map h.numbered.nodup hfirst hsecond htype
    obtain rfl : first = second := congrArg Prod.snd heq
    exact Renderer.same_trans (Renderer.same_symm hfirstSame) hsecondSame

theorem register_of_same (h : Ready capacity registered roll) {entry : EventType × Renderer}
    (hentry : entry ∈ roll.registry.entries) (hsame : entry.2.same renderer = true) :
    roll.registry.register renderer = (.ok entry.1, roll.registry) :=
  register_of_entry h.initialized h.numbered.distinct hentry hsame

theorem register_of_new (h : Ready capacity registered roll)
    (hnew : ∀ entry ∈ roll.registry.entries, entry.2.same renderer = false) :
    roll.registry.register renderer =
      if capacity ≤ roll.registry.entries.length then
        (.error (.registryFull capacity), roll.registry)
      else (.ok roll.registry.next, roll.registry.enter renderer) := by
  rw [← h.capacity_eq]
  rcases register_cases roll.registry renderer with
    ⟨hearly, -⟩ | ⟨-, ⟨entry, hentry, hsame, -⟩ | ⟨-, ⟨hle, hfull⟩ | ⟨hlt, hregister⟩⟩⟩
  · rw [h.initialized] at hearly
    cases hearly
  · rw [hnew entry hentry] at hsame
    cases hsame
  · rw [if_pos hle, hfull]
  · rw [if_neg (Nat.not_le.mpr hlt), hregister]

end Ready

/-- Until the built-in renderers are installed nothing happens to a registry. -/
inductive Sound (capacity : Nat) (roll : Roll) : Prop
  | fresh (h : roll = { registry := { capacity } })
  | ready (registered : Nat) (h : Ready capacity registered roll)

namespace Sound

theorem step (h : Sound capacity roll) (hcapacity : capacity ≤ 2 ^ 32 - 16) (action : Action) :
    Sound capacity (roll.step action) := by
  cases h with
  | fresh h =>
    subst h
    cases action with
    | install => exact .ready 0 (Ready.install capacity)
    | register renderer => exact .fresh rfl
  | ready registered h =>
    rcases step_cases h.initialized action with
      heq | ⟨renderer, entry, hentry, hsame, heq⟩ | ⟨renderer, hnew, hroom, heq⟩
    · rw [heq]
      exact .ready registered h
    · rw [heq]
      exact .ready registered (h.again hentry hsame)
    · rw [heq]
      exact .ready (registered + 1) (h.enter hcapacity hnew hroom)

theorem run (h : Sound capacity roll) (hcapacity : capacity ≤ 2 ^ 32 - 16)
    (actions : List Action) : Sound capacity (roll.run actions) := by
  induction actions generalizing roll with
  | nil => exact h
  | cons action actions ih => exact ih (h.step hcapacity action)

end Sound

theorem step_registry (roll : Roll) (action : Action) :
    (roll.step action).registry =
      match action with
      | .install => roll.registry.installBuiltins
      | .register renderer => (roll.registry.register renderer).2 := by
  cases action with
  | install => rfl
  | register renderer =>
    cases h : roll.registry.register renderer with
    | mk result registry =>
      cases result with
      | ok type => simp [step_register_ok h, h]
      | error error => simp [step_register_error h, h]

theorem initialized_run (roll : Roll) (actions : List Action) :
    (roll.run actions).registry.initialized = true ↔
      roll.registry.initialized = true ∨ .install ∈ actions := by
  induction actions generalizing roll with
  | nil => simp [run]
  | cons action actions ih =>
    rw [run, List.foldl_cons, ← run, ih, step_registry]
    cases action with
    | install => simp [initialized_installBuiltins]
    | register renderer => simp [initialized_register]

theorem resolve?_run {found : Renderer} (h : roll.registry.resolve? type = some found)
    (actions : List Action) : (roll.run actions).registry.resolve? type = some found := by
  induction actions generalizing roll with
  | nil => exact h
  | cons action actions ih =>
    refine ih ?_
    rw [step_registry]
    cases action with
    | install => exact resolve?_installBuiltins h
    | register renderer => exact resolve?_register h renderer

/-- Before the built-in renderers are installed a registry refuses every renderer and finds none.
Afterwards its ids are numbered, a renderer that is there is given its id again, another one is given
the next id while there is room, and the valid types are those that are found. Ids are the same
exactly when the renderers are, and an id stands for the first of them from then on. -/
theorem ids_follow_renderers {actions : List Action} (hcapacity : capacity ≤ 2 ^ 32 - 16)
    (hrun : run { registry := { capacity } } actions = roll) :
    (.install ∉ actions → ∀ renderer type,
      roll.registry.register renderer = (.error .notInitialized, roll.registry) ∧
        roll.registry.resolve? type = none) ∧
    (.install ∈ actions → ∃ registered, roll.registry.Numbered registered ∧
      (∀ renderer, ∀ entry ∈ roll.registry.entries, entry.2.same renderer = true →
        roll.registry.register renderer = (.ok entry.1, roll.registry)) ∧
      (∀ renderer, (∀ entry ∈ roll.registry.entries, entry.2.same renderer = false) →
        roll.registry.register renderer =
          if capacity ≤ roll.registry.entries.length then
            (.error (.registryFull capacity), roll.registry)
          else (.ok roll.registry.next, roll.registry.enter renderer)) ∧
      ∀ type, roll.registry.isValid type = (roll.registry.resolve? type).isSome) ∧
    roll.registry.entries.length ≤ max capacity 2 ∧
    (∀ a ∈ roll.issued, ∀ b ∈ roll.issued, a.1.same b.1 = true ↔ a.2 = b.2) ∧
    ∀ a ∈ roll.issued, ∃ first,
      roll.issued.find? (fun given => given.1.same a.1) = some (first, a.2) ∧
        ∀ later, (roll.run later).registry.resolve? a.2 = some first := by
  have hinstalled : roll.registry.initialized = true ↔ .install ∈ actions := by
    rw [← hrun, initialized_run]
    simp
  have hsound : Sound capacity roll := hrun ▸ (Sound.fresh rfl).run hcapacity actions
  cases hsound with
  | fresh h =>
    subst h
    refine ⟨fun _ renderer type => ⟨rfl, rfl⟩, ?_, Nat.zero_le _, ?_, ?_⟩
    · intro hmem
      cases hinstalled.mpr hmem
    · intro a ha
      cases ha
    · intro a ha
      cases ha
  | ready registered h =>
    refine ⟨?_, ?_, ?_, ?_, ?_⟩
    · intro hnot
      exact absurd (hinstalled.mp h.initialized) hnot
    · intro _
      exact ⟨registered, h.numbered, fun _ _ => h.register_of_same, fun _ => h.register_of_new,
        h.numbered.isValid_eq h.initialized⟩
    · rw [← h.capacity_eq]
      exact h.numbered.length_le
    · intro a ha b hb
      exact h.same_iff ha hb
    · intro a ha
      obtain ⟨first, hfind, hmem⟩ := h.names a ha
      exact ⟨first, hfind, resolve?_run (resolve?_of_mem h.initialized h.numbered.nodup hmem)⟩

/-- Two names, one of them twice, and a built-in renderer, in a table with room for one more. -/
def threeOfFour : List Action :=
  [.register .hexDump, .install, .register (.function "a" fun _ => { pieces := [] }),
    .register .hexDump, .register (.function "b" fun data => { pieces := [data] }),
    .register (.function "a" fun data => { pieces := [data] })]

theorem ids_follow_renderers_threeOfFour :
    (3 : Nat) ≤ 2 ^ 32 - 16 ∧ ∃ roll, run { registry := { capacity := 3 } } threeOfFour = roll ∧
      roll.issued.map Prod.snd = [⟨16⟩, .hexDump, ⟨16⟩] ∧ roll.registry.Numbered 1 ∧
      ∀ later, ∃ first, (roll.run later).registry.resolve? ⟨16⟩ = some first := by
  have hcapacity : (3 : Nat) ≤ 2 ^ 32 - 16 := by decide
  obtain ⟨-, hinstalled, -, -, hnamed⟩ := ids_follow_renderers hcapacity
    (rfl : run { registry := { capacity := 3 } } threeOfFour = _)
  obtain ⟨registered, hnumbered, -⟩ := hinstalled (by simp [threeOfFour])
  obtain ⟨first, -, hlater⟩ := hnamed (.function "a" fun _ => { pieces := [] }, ⟨16⟩)
    List.mem_cons_self
  have hlength : 3 = registered + 2 := hnumbered.length_eq
  obtain rfl : registered = 1 := by omega
  exact ⟨hcapacity, _, rfl, rfl, hnumbered, fun later => ⟨first, hlater later⟩⟩

end
end Roll
end EventLog.Registry
