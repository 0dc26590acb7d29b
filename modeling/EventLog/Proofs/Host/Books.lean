import EventLog.Proofs.Host.Crew
import EventLog.Proofs.Store.Entries
import EventLog.Proofs.Store.Ledger

/-! The books along every run of any number of threads, sessions included. Whoever does what, each ring
is the one that some account of accepted and refused events makes it, and no account has more events
than turns were taken. -/
namespace EventLog

/-- No account has accepted more than `n` events. -/
def Ledger.Within (ledger : Ledger) (n : Nat) : Prop := ∀ id, (ledger id).accepted.length ≤ n

namespace Ledger.Within

section
variable {ledger : Ledger} {n : Nat}

theorem mono {m : Nat} (h : ledger.Within n) (hle : n ≤ m) : ledger.Within m :=
  fun id => (h id).trans hle

theorem empty (n : Nat) : Ledger.Within (fun _ => {}) n := fun _ => Nat.zero_le n

theorem update (h : ledger.Within n) {account : Account} (haccount : account.accepted.length ≤ n)
    (id : Nat) : Ledger.Within (Function.update ledger id account) n := by
  intro other
  by_cases heq : other = id
  · rw [heq, Function.update_self]
    exact haccount
  · rw [Function.update_of_ne heq]
    exact h other

theorem clear (h : ledger.Within n) (id : Nat) : (ledger.clear id).Within n := by
  refine h.update ?_ id
  exact Nat.zero_le n

theorem after {α : Type} {change : α → Ledger} (h : ledger.Within n)
    (hchange : ∀ value, (change value).Within n) (result : Except Fault α) :
    (ledger.after change result).Within n := by
  cases result with
  | ok value => exact hchange value
  | error fault => exact h

theorem amend {change : Account → Account} (h : ledger.Within n)
    (hchange : ∀ id, (change (ledger id)).accepted.length ≤ n) (id : Option Nat) :
    (ledger.amend change id).Within n := by
  cases id with
  | none => exact h
  | some id => exact h.update (hchange id) id

theorem logged (h : ledger.Within n) (id : Option Nat) (write : Write)
    (result : Except Fault Unit) : (ledger.logged id write result).Within (n + 1) := by
  have hlarger := h.mono (Nat.le_succ n)
  unfold Ledger.logged
  split
  · refine hlarger.amend (fun id => ?_) id
    rw [Account.accept, List.length_append]
    exact Nat.succ_le_succ (h id)
  · refine hlarger.amend (fun id => ?_) id
    exact hlarger id
  · exact hlarger

end
end Ledger.Within

/-- The rings are those of some books, with no more than `n` events in an account. -/
def Table.Accounted (table : Table) (n : Nat) : Prop :=
  ∃ ledger : Ledger, table.Booked ledger ∧ ledger.Within n

namespace Table.Accounted

section
variable {store : Store} {n : Nat}

theorem mono {table : Table} {m : Nat} (h : table.Accounted n) (hle : n ≤ m) :
    table.Accounted m := by
  obtain ⟨ledger, hbooked, hwithin⟩ := h
  exact ⟨ledger, hbooked, hwithin.mono hle⟩

theorem reset (h : store.table.Accounted n) (me : ThreadId) (id : Nat) :
    (store.reset me id).2.table.Accounted n := by
  obtain ⟨ledger, hbooked, hwithin⟩ := h
  exact ⟨_, hbooked.reset id, hwithin.after (fun _ => hwithin.clear id) _⟩

theorem resetAll (h : store.table.Accounted n) (me : ThreadId) :
    (store.resetAll me).2.table.Accounted n := by
  obtain ⟨ledger, hbooked, hwithin⟩ := h
  exact ⟨_, hbooked.resetAll, hwithin.after (fun _ => .empty n) _⟩

theorem storeAfter {host : Host} (h : host.store.table.Accounted n) (worker : Worker)
    (action : Action) : (host.storeAfter worker action).table.Accounted (n + 1) := by
  have hlarger := h.mono (Nat.le_succ n)
  obtain ⟨ledger, hbooked, hwithin⟩ := h
  have hnext := hwithin.mono (Nat.le_succ n)
  cases action with
  | init capacity memory =>
    refine ⟨_, hbooked.init capacity memory, hnext.after (fun _ => ?_) _⟩
    split
    · exact hnext
    · exact hnext.clear 0
  | cleanup => exact ⟨ledger, hbooked.cleanup, hnext⟩
  | create capacity memory => exact ⟨_, hbooked.create capacity memory, hnext.after hnext.clear _⟩
  | delete id => exact ⟨ledger, hbooked.delete id, hnext⟩
  | reset id => exact hlarger.reset worker.id id
  | resetAll => exact hlarger.resetAll worker.id
  | lock full => exact ⟨ledger, hbooked.lockGlobal worker.id full, hnext⟩
  | unlock =>
    unfold Host.storeAfter
    dsimp only
    cases worker.guard with
    | none => exact hlarger
    | some guard => exact ⟨ledger, hbooked.release guard, hnext⟩
  | log target event now =>
    exact ⟨_, hbooked.log worker.context target event now, hwithin.logged _ _ _⟩
  | session source room =>
    exact Session.store_run (P := fun store => store.table.Accounted (n + 1))
      (fun store id hstore => hstore.reset _ id) (fun store hstore => hstore.resetAll _) hlarger
  | _ => exact hlarger

end
end Table.Accounted

namespace Crew

/-- After every run the rings are accounted for, with no more events than turns. -/
theorem accounted_run (crew : Crew) {n : Nat} (h : crew.host.store.table.Accounted n)
    (turns : List (ThreadId × Action)) :
    (crew.run turns).host.store.table.Accounted (n + turns.length) := by
  induction turns generalizing crew n with
  | nil => exact h
  | cons turn turns ih =>
    have hstep : (crew.step turn).host.store.table.Accounted (n + 1) := by
      rw [store_step]
      exact h.storeAfter (crew.worker turn.1) turn.2
    have hrun := ih (crew.step turn) hstep
    rwa [Nat.add_right_comm] at hrun

theorem accounted_of_new {config : Config} {start : Store} (hnew : Store.new? config = .ok start)
    (turns : List (ThreadId × Action)) :
    (run { host := { store := start } } turns).host.store.table.Accounted turns.length := by
  obtain ⟨-, rfl⟩ := Store.eq_ofConfig_of_new? hnew
  have hstart : (Store.ofConfig config).table.Accounted 0 :=
    ⟨fun _ => {}, .empty config.maxBuffers _, .empty 0⟩
  have hrun := accounted_run { host := { store := Store.ofConfig config } } hstart turns
  rwa [Nat.zero_add] at hrun

end Crew
end EventLog
