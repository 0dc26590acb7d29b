import EventLog.Proofs.Ring.History

/-! A ring with the writers at work on it. A writer reserves a slot and gets a ticket; it delivers
its event later, or never, and meanwhile others reserve, deliver, read and empty the ring. -/
namespace EventLog

/-- A reservation: how often the ring had been emptied before it, how many reservations came
between, and the slot that the writer was told. -/
structure Ticket where
  resets : Nat
  number : Nat
  slot : Nat
  deriving DecidableEq

/-- A ticket that has been used, with the event that was written. -/
structure Delivery where
  ticket : Ticket
  write : Write

def Delivery.fill (delivery : Delivery) : Fill := ⟨delivery.ticket.slot, delivery.write⟩

def Delivery.record (delivery : Delivery) : Record := delivery.write.record delivery.ticket.slot

/-- The ring, what happened to it since it was last emptied, and the tickets that are not used yet;
these may be older. -/
structure Traffic where
  ring : Ring
  resets : Nat := 0
  reserved : Nat := 0
  pending : List Ticket := []
  delivered : List Delivery := []

namespace Traffic

inductive Move where
  | reserve
  | deliver (ticket : Ticket) (write : Write)
  | append (write : Write)
  | reset
  | snapshot
  | status

/-- The ticket of the next reservation. -/
def ticket (traffic : Traffic) (slot : Nat) : Ticket := ⟨traffic.resets, traffic.reserved, slot⟩

/-- One move; none when it uses a ticket that is not there to be used, or waits forever. An event
that is dropped gives no ticket and fills no slot. -/
def step? (traffic : Traffic) : Move → Option Traffic
  | .reserve =>
    match traffic.ring.advance with
    | (.ok slot, ring) =>
      some { traffic with
        ring
        reserved := traffic.reserved + 1
        pending := traffic.pending ++ [traffic.ticket slot] }
    | (.error _, ring) => some { traffic with ring }
  | .deliver ticket write =>
    if ticket ∈ traffic.pending then
      match traffic.ring.populate ticket.slot write.event write.registry write.time with
      | (.ok (), ring) =>
        some { traffic with
          ring
          pending := traffic.pending.erase ticket
          delivered := traffic.delivered ++ [⟨ticket, write⟩] }
      | (.error _, ring) => some { traffic with ring, pending := traffic.pending.erase ticket }
    else none
  | .append write =>
    match traffic.ring.append write.event write.registry write.time with
    | (.ok (), ring) =>
      some { traffic with
        ring
        reserved := traffic.reserved + 1
        delivered := traffic.delivered ++ [⟨traffic.ticket traffic.ring.next, write⟩] }
    | (.error _, ring) => some { traffic with ring }
  | .reset =>
    traffic.ring.reset?.map fun ring =>
      { ring, resets := traffic.resets + 1, pending := traffic.pending }
  | .snapshot => traffic.ring.snapshot?.map fun _ => traffic
  | .status => traffic.ring.status?.map fun _ => traffic

def run? (traffic : Traffic) (moves : List Move) : Option Traffic := moves.foldlM step? traffic

/-- Every ticket that was given since the run began, as far as it is still of interest. -/
def tickets (traffic : Traffic) : List Ticket :=
  traffic.pending ++ traffic.delivered.map Delivery.ticket

/-- The tickets that were given since the ring was last emptied are numbered without gaps and are
there once; older ones are older. -/
structure Numbered (capacity resets reserved : Nat) (tickets : List Ticket) : Prop where
  slot_eq : ∀ ticket ∈ tickets, ticket.slot = ticket.number % capacity
  resets_le : ∀ ticket ∈ tickets, ticket.resets ≤ resets
  numbers : ((tickets.filter fun ticket => ticket.resets == resets).map Ticket.number).Perm
    (List.range reserved)

namespace Numbered

variable {capacity resets reserved : Nat} {tickets others : List Ticket}

theorem nil : Numbered capacity resets 0 [] where
  slot_eq := by simp
  resets_le := by simp
  numbers := by simp

theorem perm (h : Numbered capacity resets reserved tickets) (hperm : tickets.Perm others) :
    Numbered capacity resets reserved others where
  slot_eq := fun ticket hmem => h.slot_eq ticket (hperm.mem_iff.mpr hmem)
  resets_le := fun ticket hmem => h.resets_le ticket (hperm.mem_iff.mpr hmem)
  numbers := ((hperm.filter _).map _).symm.trans h.numbers

theorem reserve (h : Numbered capacity resets reserved tickets) :
    Numbered capacity resets (reserved + 1)
      (⟨resets, reserved, reserved % capacity⟩ :: tickets) where
  slot_eq := by
    intro ticket hmem
    rcases List.mem_cons.mp hmem with rfl | hmem
    · rfl
    · exact h.slot_eq ticket hmem
  resets_le := by
    intro ticket hmem
    rcases List.mem_cons.mp hmem with rfl | hmem
    · exact le_rfl
    · exact h.resets_le ticket hmem
  numbers := by
    rw [List.range_succ, List.filter_cons_of_pos (by simp), List.map_cons]
    exact (h.numbers.cons reserved).trans (List.perm_append_singleton _ _).symm

/-- A reset makes every ticket old that is still around. -/
theorem reset (h : Numbered capacity resets reserved tickets)
    (hsub : ∀ ticket ∈ others, ticket ∈ tickets) : Numbered capacity (resets + 1) 0 others where
  slot_eq := fun ticket hmem => h.slot_eq ticket (hsub ticket hmem)
  resets_le := fun ticket hmem => (h.resets_le ticket (hsub ticket hmem)).trans (Nat.le_succ _)
  numbers := by
    have hnone : others.filter (fun ticket => ticket.resets == resets + 1) = [] := by
      rw [List.filter_eq_nil_iff]
      intro ticket hmem
      have := h.resets_le ticket (hsub ticket hmem)
      simp only [beq_iff_eq]
      omega
    rw [hnone]
    exact List.Perm.refl _

/-- The slot of a ticket is reached only once the reservations have come that far. -/
theorem number_lt (h : Numbered capacity resets reserved tickets) {ticket : Ticket}
    (hmem : ticket ∈ tickets) (hcurrent : ticket.resets = resets) : ticket.number < reserved := by
  rw [← List.mem_range, ← h.numbers.mem_iff]
  exact List.mem_map.mpr ⟨ticket, List.mem_filter.mpr ⟨hmem, by simp [hcurrent]⟩, rfl⟩

end Numbered

/-- The ring is what its history makes it, and the tickets are those that were given. -/
structure Sound (capacity : Nat) (traffic : Traffic) : Prop where
  ring : traffic.ring =
    Ring.ofHistory capacity traffic.reserved (traffic.delivered.map Delivery.fill) 0
  tickets : Numbered capacity traffic.resets traffic.reserved traffic.tickets

section
variable {capacity : Nat} {traffic next : Traffic}

theorem sound_start : Sound capacity { ring := Ring.ofHistory capacity 0 [] 0 } where
  ring := rfl
  tickets := Numbered.nil

theorem Sound.slot_lt (h : Sound capacity traffic) (hcapacity : 0 < capacity) {ticket : Ticket}
    (hmem : ticket ∈ traffic.tickets) : ticket.slot < capacity := by
  rw [h.tickets.slot_eq ticket hmem]
  exact Nat.mod_lt _ hcapacity

/-- Every move leaves a sound ring sound: none of its events is dropped. -/
theorem Sound.step (h : Sound capacity traffic) (hcapacity : 0 < capacity) {move : Move}
    (hstep : traffic.step? move = some next) : Sound capacity next := by
  have htickets := h.tickets
  cases move with
  | reserve =>
    simp only [step?, h.ring, Ring.advance_ofHistory, Option.some.injEq] at hstep
    subst hstep
    refine ⟨rfl, htickets.reserve.perm ?_⟩
    simp only [Traffic.tickets, ticket, List.append_assoc]
    exact List.perm_middle.symm
  | deliver ticket write =>
    simp only [step?] at hstep
    split at hstep
    · next hmem =>
      have hslot := h.slot_lt hcapacity (List.mem_append_left _ hmem)
      rw [h.ring, Ring.populate_ofHistory hslot] at hstep
      simp only [Option.some.injEq] at hstep
      subst hstep
      refine ⟨by simp [Delivery.fill], htickets.perm ?_⟩
      simp only [Traffic.tickets, List.map_append, List.map_singleton, ← List.append_assoc]
      exact ((List.perm_cons_erase hmem).append_right _).trans
        (List.perm_append_singleton _ _).symm
    · simp at hstep
  | append write =>
    have hnext : traffic.ring.next = traffic.reserved % capacity := by rw [h.ring]; rfl
    simp only [step?, hnext] at hstep
    rw [h.ring, Ring.append_ofHistory hcapacity] at hstep
    simp only [Option.some.injEq] at hstep
    subst hstep
    refine ⟨by simp [Delivery.fill, ticket], htickets.reserve.perm ?_⟩
    simp only [Traffic.tickets, ticket, List.map_append, List.map_singleton, ← List.append_assoc]
    exact (List.perm_append_singleton _ _).symm
  | reset =>
    simp only [step?, h.ring, Ring.reset?_ofHistory, Option.map_some, Option.some.injEq] at hstep
    subst hstep
    refine ⟨rfl, htickets.reset fun ticket hmem => List.mem_append_left _ ?_⟩
    simpa [Traffic.tickets] using hmem
  | snapshot =>
    simp only [step?, h.ring, Ring.snapshot?_ofHistory, Option.map_some, Option.some.injEq] at hstep
    exact hstep ▸ h
  | status =>
    simp only [step?, h.ring, Ring.status?_ofHistory, Option.map_some, Option.some.injEq] at hstep
    exact hstep ▸ h

theorem Sound.run (h : Sound capacity traffic) (hcapacity : 0 < capacity) {moves : List Move}
    (hrun : traffic.run? moves = some next) : Sound capacity next := by
  induction moves generalizing traffic with
  | nil =>
    obtain rfl : traffic = next := by simpa [run?] using hrun
    exact h
  | cons move moves ih =>
    rw [run?, List.foldlM_cons, Option.bind_eq_bind, Option.bind_eq_some_iff] at hrun
    obtain ⟨middle, hstep, hrest⟩ := hrun
    exact ih (h.step hcapacity hstep) hrest

end
end Traffic
end EventLog
