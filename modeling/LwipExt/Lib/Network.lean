import LwipExt.Lib.Run
import Mathlib.Logic.Function.Basic
import Mathlib.Data.List.Nodup

/-!
Nodes that answer datagrams with datagrams, over a network that delivers them in any
order and may lose them.

A protocol says what a node does with a packet and which copies of a sent message reach
which node. A packet that is `Sterile` at its node makes it send nothing that reaches a
node. The rule `confined` is for an exchange that starts with at most one packet for each
node, all sterile: whatever the order of delivery, only these packets are ever delivered.
-/

namespace LwipExt.Lib

universe u

/-- Nodes `δ` with a state `σ` handle packets `π` by sending messages `μ`; `ε` is what
the surroundings decide at a delivery. -/
structure Protocol (δ σ π μ ε : Type u) where
  handle : δ → σ → π → ε → σ × List μ
  route : δ → σ → μ → List (δ × π)

/-- The states of the nodes and the packets on their way, each to one node. -/
structure Net (δ σ π : Type u) where
  node : δ → σ
  flight : List (δ × π)

/-- The network delivers the packet at a place in the list, or loses it. -/
inductive Delivery (ε : Type u) where
  | deliver (i : Nat) (outcome : ε)
  | lose (i : Nat)

namespace Protocol

variable {δ σ π μ ε : Type u} [DecidableEq δ] (P : Protocol δ σ π μ ε)

/-- What a delivery makes the receiving node send. -/
def sends (s : Net δ σ π) : Delivery ε → List μ
  | .deliver i outcome =>
      match s.flight[i]? with
      | some (d, p) => (P.handle d (s.node d) p outcome).2
      | none => []
  | .lose _ => []

/-- One event of the network. -/
def step (s : Net δ σ π) : Delivery ε → Net δ σ π
  | .deliver i outcome =>
      match s.flight[i]? with
      | some (d, p) =>
          let (x, sent) := P.handle d (s.node d) p outcome
          ⟨Function.update s.node d x, s.flight.eraseIdx i ++ sent.flatMap (P.route d x)⟩
      | none => s
  | .lose i => { s with flight := s.flight.eraseIdx i }

/-- The packet an event delivers. -/
def delivered (s : Net δ σ π) : Delivery ε → Option (δ × π)
  | .deliver i _ => s.flight[i]?
  | .lose _ => none

/-- The number of packets a run delivers. -/
def deliveries : Net δ σ π → List (Delivery ε) → Nat
  | _, [] => 0
  | s, e :: es => (delivered s e).toList.length + deliveries (P.step s e) es

/-- Handling the packet at its node sends nothing that reaches a node. -/
def Sterile (node : δ → σ) (k : δ × π) : Prop :=
  ∀ outcome, ∀ m ∈ (P.handle k.1 (node k.1) k.2 outcome).2,
    P.route k.1 (P.handle k.1 (node k.1) k.2 outcome).1 m = []

/-- What is left of the packets of `s₀` is on its way in `s`, to nodes that are as they
were. -/
structure Leftover (s₀ s : Net δ σ π) : Prop where
  flight : s.flight.Sublist s₀.flight
  node : ∀ k ∈ s.flight, s.node k.1 = s₀.node k.1

variable {P} {s₀ s : Net δ σ π}

omit [DecidableEq δ] in
/-- The packets left go to other nodes than the one taken away. -/
theorem fst_ne_of_mem_eraseIdx {flight : List (δ × π)} (apart : (flight.map Prod.fst).Nodup)
    {i : Nat} {k k' : δ × π} (at_ : flight[i]? = some k) (mem : k' ∈ flight.eraseIdx i) :
    k'.1 ≠ k.1 := by
  obtain ⟨j, inside, ne, rfl⟩ := List.mem_eraseIdx_iff_getElem.mp mem
  obtain ⟨inside', rfl⟩ := List.getElem?_eq_some_iff.mp at_
  intro same
  have equal : flight[j] = flight[i] :=
    List.inj_on_of_nodup_map apart (List.getElem_mem _) (List.getElem_mem _) same
  exact ne (apart.of_map.getElem_inj_iff.mp equal)

/-- An event takes a packet away at most, if all packets are sterile and no two go to one
node. -/
theorem step_leftover (apart : (s₀.flight.map Prod.fst).Nodup)
    (sterile : ∀ k ∈ s₀.flight, P.Sterile s₀.node k) (left : Leftover s₀ s) (e : Delivery ε) :
    Leftover s₀ (P.step s e) ∧
      (delivered s e).toList.length + (P.step s e).flight.length ≤ s.flight.length := by
  cases e with
  | lose i =>
      have erased : (s.flight.eraseIdx i).Sublist s.flight := List.eraseIdx_sublist ..
      exact ⟨⟨erased.trans left.flight, fun k mem => left.node k (erased.subset mem)⟩,
        by simpa [delivered, step] using erased.length_le⟩
  | deliver i outcome =>
      cases at_ : s.flight[i]? with
      | none =>
          simp only [step, delivered, at_]
          exact ⟨left, by simp⟩
      | some k =>
          obtain ⟨d, p⟩ := k
          have inside : i < s.flight.length := (List.getElem?_eq_some_iff.mp at_).1
          have mem : (d, p) ∈ s.flight := List.mem_of_getElem? at_
          have same := left.node _ mem
          -- Nothing the node sends reaches a node.
          have quiet : (P.handle d (s.node d) p outcome).2.flatMap
              (P.route d (P.handle d (s.node d) p outcome).1) = [] := by
            rw [List.flatMap_eq_nil_iff, same]
            exact fun m sent => sterile _ (left.flight.subset mem) outcome m sent
          have after : P.step s (.deliver i outcome) =
              ⟨Function.update s.node d (P.handle d (s.node d) p outcome).1,
                s.flight.eraseIdx i⟩ := by
            simp only [step, at_, quiet, List.append_nil]
          rw [after]
          refine ⟨⟨(List.eraseIdx_sublist ..).trans left.flight, ?_⟩, ?_⟩
          · -- No other packet goes to the node that changed.
            intro k' mem'
            have other : k'.1 ≠ d :=
              fst_ne_of_mem_eraseIdx (apart.sublist (left.flight.map Prod.fst)) at_ mem'
            calc Function.update s.node d (P.handle d (s.node d) p outcome).1 k'.1
              = s.node k'.1 := Function.update_of_ne other _ _
              _ = s₀.node k'.1 := left.node k' ((List.eraseIdx_sublist ..).subset mem')
          · simp only [delivered, at_, Option.toList_some, List.length_singleton,
              List.length_eraseIdx, if_pos inside]
            omega

/-- If the packets on their way are sterile and no two go to one node, every run delivers
some of these packets and no other. -/
theorem confined (apart : (s₀.flight.map Prod.fst).Nodup)
    (sterile : ∀ k ∈ s₀.flight, P.Sterile s₀.node k) (es : List (Delivery ε)) :
    Along P.step (fun s e => ∀ k ∈ delivered s e, k ∈ s₀.flight) s₀ es ∧
      P.deliveries s₀ es ≤ s₀.flight.length := by
  suffices all : ∀ s, Leftover s₀ s →
      Along P.step (fun s e => ∀ k ∈ delivered s e, k ∈ s₀.flight) s es ∧
        P.deliveries s es ≤ s.flight.length from
    all s₀ ⟨List.Sublist.refl _, fun _ _ => rfl⟩
  intro s left
  induction es generalizing s with
  | nil => exact ⟨trivial, Nat.zero_le _⟩
  | cons e es ih =>
      obtain ⟨left', fewer⟩ := step_leftover apart sterile left e
      obtain ⟨along, count⟩ := ih _ left'
      refine ⟨⟨?_, along⟩, ?_⟩
      · intro k mem
        cases e with
        | lose i => cases mem
        | deliver i outcome => exact left.flight.subset (List.mem_of_getElem? mem)
      · exact Nat.le_trans (Nat.add_le_add_left count _) fewer

end Protocol

end LwipExt.Lib
