import EventLog.Proofs.Store.Lock

/-! What the calls that bring a store up and down and change its table do, one case for each way in
which they end. -/
namespace EventLog.Store

section
variable (store : Store) (me : ThreadId)

variable {store me} in
theorem isInitialized_of_lockGlobal {full : Bool} {taken : Guard} {next : Store}
    (h : store.lockGlobal me full = (.ok taken, next)) : store.isInitialized = true := by
  rcases lockGlobal_cases store me full with ⟨_, herror⟩ | ⟨-, hup, -⟩
  · cases herror.symm.trans h
  · exact hup

/-- The store with its built-in renderers. -/
def installed : Store := { store with registry := store.registry.installBuiltins }

/-- The store after the global lock was released. -/
def freed : Store := { store with state := .unlocked, owner := none, globalLock := {} }

theorem init_cases (capacity : Nat) (memory : Memory) :
    (∃ fault, store.init capacity memory = (.error fault, store)) ∨
      store.isInitialized = false ∧
        ((∃ error, store.init capacity memory = (.error (.error error), store.installed)) ∨
          ∃ table, store.init capacity memory =
              (.ok (), { store.installed with table, enabled := true, state := .unlocked }) ∧
            (capacity = 0 ∧ table = store.table ∨
              capacity ≠ 0 ∧ ∃ ring, Ring.new? memory (store.config.clamp capacity) = .ok ring ∧
                table = { store.table.put 0 ring with default := some 0 })) := by
  unfold init
  cases hup : store.isInitialized with
  | true => exact .inl ⟨_, if_pos rfl⟩
  | false =>
    rw [if_neg (by simp)]
    cases store.globalLock.lock? with
    | none => exact .inl ⟨_, rfl⟩
    | some lock =>
      refine .inr ⟨rfl, ?_⟩
      dsimp only
      by_cases hzero : capacity = 0
      · rw [if_pos hzero]
        exact .inr ⟨_, rfl, .inl ⟨hzero, rfl⟩⟩
      · rw [if_neg hzero]
        cases hnew : Ring.new? memory (store.config.clamp capacity) with
        | error error => exact .inl ⟨_, rfl⟩
        | ok ring => exact .inr ⟨_, rfl, .inr ⟨hzero, ring, rfl, rfl⟩⟩

theorem release_simple : store.release {} = store.freed := by
  unfold release freed
  rw [Table.mapAt_nil]
  rfl

theorem create_cases (capacity : Nat) (memory : Memory) :
    (∃ fault, store.lockGlobal me false = (.error fault, store) ∧
        store.create me capacity memory = (.error fault, store)) ∨
      store.lockGlobal me false = (.ok {}, store.simplyLocked me) ∧
        (store.table.free? = none ∧ store.create me capacity memory =
            (.error (.error (.noFreeBuffer store.config.maxBuffers)), store.freed) ∨
          ∃ id, store.table.free? = some id ∧
            ((∃ error, Ring.new? memory (store.config.clamp capacity) = .error error ∧
                store.create me capacity memory = (.error (.error error), store.freed)) ∨
              ∃ ring, Ring.new? memory (store.config.clamp capacity) = .ok ring ∧
                store.create me capacity memory =
                  (.ok id, { store.freed with table := store.table.add id ring }))) := by
  unfold create underLock
  rcases lockGlobal_cases store me false with
    ⟨fault, herror⟩ | ⟨-, -, -, ⟨-, hsimple⟩ | ⟨hfull, -⟩⟩
  · rw [herror]
    exact .inl ⟨fault, rfl, rfl⟩
  · rw [hsimple]
    refine .inr ⟨rfl, ?_⟩
    dsimp only [simplyLocked]
    cases hfree : store.table.free? with
    | none =>
      refine .inl ⟨rfl, ?_⟩
      dsimp only
      rw [release_simple]
      rfl
    | some id =>
      refine .inr ⟨id, rfl, ?_⟩
      dsimp only
      cases hnew : Ring.new? memory (store.config.clamp capacity) with
      | error error =>
        refine .inl ⟨error, rfl, ?_⟩
        dsimp only
        rw [release_simple]
        rfl
      | ok ring =>
        refine .inr ⟨ring, rfl, ?_⟩
        dsimp only
        rw [release_simple]
        rfl
  · cases hfull

theorem delete_cases (id : Nat) :
    (∃ fault, store.lockGlobal me true = (.error fault, store) ∧
        store.delete me id = (.error fault, store)) ∨
      store.isInitialized = true ∧ ∃ table, store.table.mapRings? Ring.acquire? = some table ∧
        (table.get? id = none ∧ store.delete me id =
            (.error (.error (.invalidBufferId id)),
              { store.freed with table := table.mapAt store.table.ids Ring.release }) ∨
          (table.get? id).isSome = true ∧ store.delete me id =
            (.ok (),
              { store.freed with
                table := (table.remove id).mapAt store.table.ids Ring.release })) := by
  unfold delete underLock
  rcases lockGlobal_cases store me true with
    ⟨fault, herror⟩ | ⟨-, hup, -, ⟨hsimple, -⟩ | ⟨-, table, htable, hfull⟩⟩
  · rw [herror]
    exact .inl ⟨fault, rfl, rfl⟩
  · cases hsimple
  · rw [hfull]
    refine .inr ⟨hup, table, htable, ?_⟩
    dsimp only [fullyLocked]
    cases hget : table.get? id with
    | none => exact .inl ⟨rfl, rfl⟩
    | some ring => exact .inr ⟨rfl, rfl⟩

theorem cleanup_cases :
    (∃ fault, store.cleanup me = (.error fault, store)) ∨
      store.cleanup me =
        (.ok (),
          { store.freed with
            state := .uninitialized, enabled := false, table := Table.empty store.table.size }) := by
  unfold cleanup
  rcases lockGlobal_cases store me false with
    ⟨fault, herror⟩ | ⟨-, -, -, ⟨-, hsimple⟩ | ⟨hfull, -⟩⟩
  · rw [herror]
    exact .inl ⟨fault, rfl⟩
  · rw [hsimple]
    refine .inr ?_
    dsimp only [simplyLocked]
    unfold release
    rw [show (Guard.retire {}).held = [] from rfl, Table.mapAt_nil]
    rfl
  · cases hfull

/-- The registry is not touched by what removes rings or adds them. -/
theorem registry_cleanup : (store.cleanup me).2.registry = store.registry := by
  rcases cleanup_cases store me with ⟨_, herror⟩ | hok
  · rw [herror]
  · rw [hok]
    rfl

theorem registry_create (capacity : Nat) (memory : Memory) :
    (store.create me capacity memory).2.registry = store.registry := by
  rcases create_cases store me capacity memory with
    ⟨_, -, herror⟩ | ⟨-, ⟨-, herror⟩ | ⟨_, -, ⟨_, -, herror⟩ | ⟨_, -, hok⟩⟩⟩
  · rw [herror]
  · rw [herror]
    rfl
  · rw [herror]
    rfl
  · rw [hok]
    rfl

theorem registry_delete (id : Nat) : (store.delete me id).2.registry = store.registry := by
  rcases delete_cases store me id with
    ⟨_, -, herror⟩ | ⟨-, _, -, ⟨-, herror⟩ | ⟨-, hok⟩⟩
  · rw [herror]
  · rw [herror]
    rfl
  · rw [hok]
    rfl

end
end EventLog.Store
