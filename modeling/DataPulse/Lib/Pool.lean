/-
**Clients of one pool.**

A pool has a number of resources. A client follows its trace: it acquires resources and releases them,
and waits while the pool has none left. Others use the pool too.

* `Exhausted`: every resource is held by a client that waits for another one;
* `demand`: the most a trace holds when it asks for one more;
* `exhausted_iff`: clients can exhaust the pool if and only if their demands add up to its size.
-/

import DataPulse.Lib.Machine
import Mathlib

namespace DataPulse.Lib.Pool

inductive Use where
  | acquire
  | release
  deriving DecidableEq

/-- The trace never releases more than it has, when it begins with some resources. -/
def WellFormed : Nat → List Use → Prop
  | _, [] => True
  | held, .acquire :: rest => WellFormed (held + 1) rest
  | 0, .release :: _ => False
  | held + 1, .release :: rest => WellFormed held rest

instance decidableWellFormed : (held : Nat) → (trace : List Use) → Decidable (WellFormed held trace)
  | _, [] => .isTrue trivial
  | held, .acquire :: rest => decidableWellFormed (held + 1) rest
  | 0, .release :: _ => .isFalse id
  | held + 1, .release :: rest => decidableWellFormed held rest

/-- The most the trace holds when it asks for one more. -/
def demand : Nat → List Use → Nat
  | _, [] => 0
  | held, .acquire :: rest => max held (demand (held + 1) rest)
  | held, .release :: rest => demand (held - 1) rest

/-- A client: what it holds, and what is left of its trace. -/
structure Client where
  held : Nat
  rest : List Use

def Client.waits (client : Client) : Bool := client.rest.head? = some .acquire

/-- The clients, and how many resources others hold. -/
structure State where
  clients : List Client
  outside : Nat

def heldBy (clients : List Client) : Nat := (clients.map Client.held).sum

/-- A client goes on, or others take a resource or give one back. -/
inductive Event where
  | go (client : Nat)
  | take
  | give

/-- One step of a pool of the given size. -/
def step (size : Nat) (state : State) : Event → Option State
  | .go index => do
      let client ← state.clients[index]?
      match client.rest with
      | .acquire :: rest =>
        if heldBy state.clients + state.outside < size then
          some { state with clients := state.clients.set index ⟨client.held + 1, rest⟩ }
        else none
      | .release :: rest =>
        if 0 < client.held then
          some { state with clients := state.clients.set index ⟨client.held - 1, rest⟩ }
        else none
      | [] => none
  | .take =>
    if heldBy state.clients + state.outside < size then
      some { state with outside := state.outside + 1 }
    else none
  | .give => if 0 < state.outside then some { state with outside := state.outside - 1 } else none

/-- The pool before its clients have begun. -/
def pool (size : Nat) (traces : List (List Use)) : Machine State Event :=
  ⟨⟨traces.map fun trace => ⟨0, trace⟩, 0⟩, step size⟩

/-- **Every resource is held by a client that waits for another one.** -/
structure Exhausted (size : Nat) (state : State) : Prop where
  clients : heldBy state.clients = size
  outside : state.outside = 0
  waits : ∀ client ∈ state.clients, 0 < client.held → client.waits = true

variable {size : Nat} {state state' : State} {traces : List (List Use)}

/-! ### What clients can hold -/

/-- The clients follow the traces: none can come to ask with more than its trace's demand. -/
def Follow (traces : List (List Use)) (state : State) : Prop :=
  List.Forall₂ (fun client trace => demand client.held client.rest ≤ demand 0 trace)
    state.clients traces

theorem follow_start : Follow traces (pool size traces).start := by
  unfold Follow pool
  rw [List.forall₂_map_left_iff]
  exact List.forall₂_same.2 fun _ _ => le_rfl

theorem Follow.set {clients : List Client} {index : Nat} {client client' : Client}
    (follow : List.Forall₂ (fun client trace => demand client.held client.rest ≤ demand 0 trace) clients
        traces) (found : clients[index]? = some client)
    (less : demand client'.held client'.rest ≤ demand client.held client.rest) :
    List.Forall₂ (fun client trace => demand client.held client.rest ≤ demand 0 trace)
      (clients.set index client') traces := by
  induction follow generalizing index with
  | nil => cases found
  | cons first rest ih =>
    cases index with
    | zero =>
      cases found
      exact .cons (less.trans first) rest
    | succ index => exact .cons first (ih found)

theorem follow_step {event : Event} (follow : Follow traces state)
    (stepped : step size state event = some state') : Follow traces state' := by
  cases event with
  | take | give =>
    change (if _ then _ else none) = some state' at stepped
    split_ifs at stepped
    cases stepped
    exact follow
  | go index =>
    obtain ⟨client, found, stepped⟩ := bind_eq_some_iff.1 stepped
    split at stepped
    · rename_i rest next
      split_ifs at stepped
      cases stepped
      refine Follow.set follow found ?_
      rw [next]
      exact le_max_right _ _
    · rename_i rest next
      split_ifs at stepped
      cases stepped
      refine Follow.set follow found ?_
      rw [next]
      exact le_rfl
    · cases stepped

/-- **A client that waits holds at most its demand.** -/
theorem held_le_demand {clients : List Client}
    (follow : List.Forall₂ (fun client trace => demand client.held client.rest ≤ demand 0 trace) clients
        traces) (waits : ∀ client ∈ clients, 0 < client.held → client.waits = true) :
    heldBy clients ≤ (traces.map (demand 0)).sum := by
  induction follow with
  | nil => exact le_rfl
  | @cons client trace clients traces first rest ih =>
    have others := ih fun other mem => waits other (mem_cons_of_mem _ mem)
    have here : client.held ≤ demand 0 trace := by
      rcases Nat.eq_zero_or_pos client.held with none | some
      · omega
      · have waiting := waits client mem_cons_self some
        unfold Client.waits at waiting
        obtain ⟨rest, next⟩ := List.head?_eq_some_iff.1 (of_decide_eq_true waiting)
        rw [next] at first
        exact (le_max_left _ _).trans first
    show client.held + heldBy clients ≤ demand 0 trace + (traces.map (demand 0)).sum
    omega

/-! ### How clients exhaust the pool -/

theorem heldBy_append (first second : List Client) : heldBy (first ++ second) = heldBy first +
    heldBy second := by
  unfold heldBy
  rw [map_append, sum_append]

theorem heldBy_cons (client : Client) (rest : List Client) :
    heldBy (client :: rest) = client.held + heldBy rest := rfl

theorem getElem?_middle (before after : List Client) (client : Client) :
    (before ++ client :: after)[before.length]? = some client := by
  rw [List.getElem?_append_right le_rfl, Nat.sub_self]
  rfl

theorem set_middle (before after : List Client) (client client' : Client) :
    (before ++ client :: after).set before.length client' = before ++ client' :: after := by
  rw [List.set_append_right _ _ le_rfl, Nat.sub_self, List.set_cons_zero]

/-- **A client goes on until it waits with a given number of resources**, as long as the pool has that
many: the induction is on its trace. -/
theorem goes_until {target : Nat} (size : Nat) (traces : List (List Use)) (before after : List Client)
    (trace : List Use) (held : Nat) (wellFormed : WellFormed held trace) (positive : 0 < target)
    (low : held ≤ target) (enough : target ≤ demand held trace)
    (room : heldBy before + target + heldBy after ≤ size) :
    ∃ rest, (pool size traces).Later ⟨before ++ ⟨held, trace⟩ :: after, 0⟩
      ⟨before ++ ⟨target, .acquire :: rest⟩ :: after, 0⟩ := by
  induction trace generalizing held with
  | nil => exact absurd enough (Nat.not_le.2 positive)
  | cons use trace ih =>
    cases use with
    | acquire =>
      by_cases here : held = target
      · subst here
        exact ⟨trace, Machine.Later.refl _⟩
      · have more : target ≤ demand (held + 1) trace := by
          rcases le_max_iff.1 enough with few | more
          · omega
          · exact more
        obtain ⟨rest, later⟩ := ih (held + 1) wellFormed (by omega) more
        have free : heldBy (before ++ ⟨held, .acquire :: trace⟩ :: after) + 0 < size := by
          rw [heldBy_append, heldBy_cons]
          show heldBy before + (held + heldBy after) + 0 < size
          omega
        refine ⟨rest,
          Machine.Later.trans (@Machine.Later.step _ _ (pool size traces) _ _ (.go before.length) ?_) later⟩
        show ((before ++ _ :: after)[before.length]?).bind _ = _
        rw [getElem?_middle]
        show (if _ then some _ else none) = _
        rw [if_pos free]
        exact congrArg some (congrArg (State.mk · 0) (set_middle _ _ _ _))
    | release =>
      cases held with
      | zero => cases wellFormed
      | succ held =>
        obtain ⟨rest, later⟩ := ih held wellFormed (by omega) enough
        refine ⟨rest,
          Machine.Later.trans (@Machine.Later.step _ _ (pool size traces) _ _ (.go before.length) ?_) later⟩
        show ((before ++ _ :: after)[before.length]?).bind _ = _
        rw [getElem?_middle]
        show (if 0 < held + 1 then some _ else none) = _
        rw [if_pos (Nat.succ_pos held)]
        exact congrArg some (congrArg (State.mk · 0) (set_middle _ _ _ _))

theorem exists_parts (bounds : List Nat) (total : Nat) (fits : total ≤ bounds.sum) :
    ∃ parts, List.Forall₂ (· ≤ ·) parts bounds ∧ parts.sum = total := by
  induction bounds generalizing total with
  | nil => exact ⟨[], .nil, (Nat.le_zero.1 fits).symm⟩
  | cons bound rest ih =>
    rw [sum_cons] at fits
    obtain ⟨parts, below, sum⟩ := ih (total - min total bound) (by omega)
    refine ⟨min total bound :: parts, .cons (min_le_right _ _) below, ?_⟩
    rw [sum_cons, sum]
    omega

/-- **Clients come to wait with any amounts below their demands** that the pool has. -/
theorem goes_all (size : Nat) (start : List (List Use)) (before : List Client) (traces : List (List Use))
    (wellFormed : ∀ trace ∈ traces, WellFormed 0 trace) (parts : List Nat)
    (below : List.Forall₂ (fun part trace => part ≤ demand 0 trace) parts traces)
    (room : heldBy before + parts.sum ≤ size) :
    ∃ after, (pool size start).Later ⟨before ++ traces.map fun trace => ⟨0, trace⟩, 0⟩ ⟨before ++ after, 0⟩ ∧
      heldBy after = parts.sum ∧ ∀ client ∈ after, 0 < client.held → client.waits = true := by
  induction below generalizing before with
  | nil => exact ⟨[], Machine.Later.refl _, rfl, fun client member => by cases member⟩
  | @cons part trace parts traces first rest ih =>
    have wellFormed' := fun other member => wellFormed other (mem_cons_of_mem _ member)
    rw [sum_cons] at room
    have idle : heldBy (traces.map fun trace => ⟨0, trace⟩) = 0 := by
      unfold heldBy
      rw [map_map]
      exact List.sum_eq_zero fun held member => by
        obtain ⟨trace, -, rfl⟩ := mem_map.1 member
        rfl
    -- the first client comes to hold its part, the others follow
    obtain ⟨client, later, held, waits⟩ : ∃ client : Client, (pool size start).Later ⟨before ++ ⟨0, trace⟩ ::
        traces.map fun trace => ⟨0, trace⟩, 0⟩ ⟨before ++ client :: traces.map fun trace => ⟨0, trace⟩, 0⟩ ∧
        client.held = part ∧ (0 < client.held → client.waits = true) := by
      rcases Nat.eq_zero_or_pos part with rfl | positive
      · exact ⟨⟨0, trace⟩, Machine.Later.refl _, rfl, fun holds => absurd holds (Nat.lt_irrefl 0)⟩
      · obtain ⟨rest, later⟩ := goes_until size start before (traces.map fun trace => ⟨0, trace⟩)
          trace 0 (wellFormed trace mem_cons_self) positive (Nat.zero_le _) first
          (by rw [idle]; omega)
        exact ⟨⟨part, .acquire :: rest⟩, later, rfl, fun _ => rfl⟩
    have room' : heldBy (before ++ [client]) + parts.sum ≤ size := by
      rw [heldBy_append, heldBy_cons, held]
      show heldBy before + (part + 0) + parts.sum ≤ size
      omega
    obtain ⟨after, onward, sum, waiting⟩ := ih (before ++ [client]) wellFormed' room'
    rw [append_assoc, append_assoc] at onward
    refine ⟨client :: after, later.trans onward, ?_, ?_⟩
    · rw [heldBy_cons, sum, held, sum_cons]
    · intro other member
      rcases mem_cons.1 member with rfl | member
      · exact waits
      · exact waiting other member

/-- **The clients can exhaust the pool if and only if their demands reach its size.** -/
theorem exhausted_iff (wellFormed : ∀ trace ∈ traces, WellFormed 0 trace) :
    (∃ state, (pool size traces).Reachable state ∧ Exhausted size state) ↔
      size ≤ (traces.map (demand 0)).sum := by
  constructor
  · rintro ⟨state, reach, exhausted⟩
    have follow : Follow traces state := Machine.Reachable.invariant reach follow_start
      fun _ _ _ follow step => follow_step follow step
    rw [← exhausted.clients]
    exact held_le_demand follow exhausted.waits
  · intro enough
    obtain ⟨parts, below, sum⟩ := exists_parts _ size enough
    obtain ⟨after, later, held, waits⟩ := goes_all size traces [] traces wellFormed parts
      (List.forall₂_map_right_iff.1 below) (by rw [sum]; exact (Nat.zero_add _).le)
    exact ⟨⟨after, 0⟩, later, held.trans sum, rfl, waits⟩

end DataPulse.Lib.Pool
