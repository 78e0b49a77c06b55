import ClosureLint.Proofs.Checking.Refitted
import ClosureLint.Proofs.Core.Preorder

/-!
# Identities of lowered functions

Whatever the checker finds out about a node is filed under the node's identity. Identities are given
out by one pass over the tree, and read by another that comes past expressions only; the two must
agree on which nodes there are and in which order they stand.

* `Counted.sorted`, `Counted.mem_ids` — identities that count up grow, and leave none out.
* `Counted.split` — the identities of a stretch of nodes count on from those before.
* `Function.counted_numberAll` — several functions numbered one after the other.
* `Enumerated` — functions whose nodes have the identities from 1 on, in the order of the nodes.
* `enumerated_lowered` — so it is with functions that were lowered one after the other.
-/

namespace ClosureLint.Core

open ClosureLint.Syntax (FunctionDef)

private theorem first_or_later {a b i : Int} (h : a < b) :
    i = a ∨ a + 1 ≤ i ∧ i < b ↔ a ≤ i ∧ i < b := by omega

namespace Counted

variable {a b : NodeId} {ms ns : List TreePart}

/-- The identities are exactly those from `a` up to before `b`. -/
theorem mem_ids (h : Counted a b ns) {i : NodeId} : i ∈ ns.map TreePart.id ↔ a ≤ i ∧ i < b := by
  induction h with
  | nil =>
    constructor
    · nofun
    · rintro ⟨hle, hlt⟩
      exact absurd (Int.lt_of_le_of_lt hle hlt) (Int.lt_irrefl _)
  | @cons a b n ns hid hcounted ih =>
    -- every node takes an identity
    have hbound : a < b := by
      rw [hcounted.after_eq]
      exact Int.lt_of_lt_of_le (Int.lt_succ a) (Int.le_add_of_nonneg_right (Int.natCast_nonneg _))
    rw [List.map_cons, List.mem_cons, ih, hid]
    exact first_or_later hbound

/-- Identities grow from node to node. -/
theorem sorted (h : Counted a b ns) : ns.Pairwise fun m n => m.id < n.id := by
  induction h with
  | nil => exact .nil
  | @cons a b n ns hid hcounted ih =>
    refine .cons (fun m hm => ?_) ih
    have hlater : a + 1 ≤ m.id := (hcounted.mem_ids.mp (List.mem_map_of_mem hm)).1
    rw [hid]
    exact Int.lt_of_add_one_le hlater

theorem nodup (h : Counted a b ns) : (ns.map TreePart.id).Nodup :=
  List.pairwise_map.mpr (h.sorted.imp Int.ne_of_lt)

/-- The nodes behind some others count on where those end. -/
theorem split (h : Counted a b (ms ++ ns)) : Counted (a + (ms.length : Int)) b ns := by
  induction ms generalizing a with
  | nil =>
    have hstart : a + (([] : List TreePart).length : Int) = a := Int.add_zero a
    rw [hstart]
    exact h
  | cons m ms ih =>
    cases h with
    | cons _ hrest =>
      have hstart : a + 1 + (ms.length : Int) = a + ((m :: ms).length : Int) := by
        rw [Int.add_assoc, Int.add_comm 1]
        rfl
      rw [← hstart]
      exact ih hrest

/-- The nodes in front of some others count from the same identity on. -/
theorem front (h : Counted a b (ms ++ ns)) : ∃ c, Counted a c ms := by
  induction ms generalizing a with
  | nil => exact ⟨a, .nil⟩
  | cons m ms ih =>
    cases h with
    | cons hid hrest =>
      obtain ⟨c, hc⟩ := ih hrest
      exact ⟨c, .cons hid hc⟩

end Counted

/-- Functions that are numbered one after the other count all their nodes. -/
theorem Function.counted_numberAll (fs : List Function) (next : NodeId) :
    ∃ after, Counted next after ((Function.numberAll next fs).flatMap Function.parts) := by
  induction fs generalizing next with
  | nil => exact ⟨next, .nil⟩
  | cons f fs ih =>
    obtain ⟨after, hrest⟩ := ih (f.number next).2
    rw [numberAll, List.flatMap_cons]
    exact ⟨after, (f.counted_number next).append hrest⟩

/-- Functions whose nodes have the identities from 1 on, in the order of the nodes. -/
structure Enumerated (fs : List Function) : Prop where
  /-- No two nodes share an identity, whatever their sort and whichever functions they are in. -/
  nodup : ((fs.flatMap Function.parts).map TreePart.id).Nodup
  /-- The identities are those from 1 up to the number of all nodes. -/
  exact_range : ∀ i : NodeId, i ∈ (fs.flatMap Function.parts).map TreePart.id ↔
    1 ≤ i ∧ i ≤ ((fs.flatMap Function.parts).length : Int)
  /-- Those of one function are consecutive in the order of its nodes, and begin behind the last one
  of the functions before. -/
  contiguous : ∀ before f after, fs = before ++ f :: after →
    f.parts.map TreePart.id = (List.range f.parts.length).map fun i : Nat =>
      1 + ((before.flatMap Function.parts).length : Int) + (i : Int)
  /-- The walk over a function comes past each expression among its nodes, and past each once. -/
  walk_eq : ∀ f ∈ fs, f.walk = exprsOf f.parts
  /-- It comes past them in the order of their identities. -/
  walk_sorted : ∀ f ∈ fs, f.walk.Pairwise fun x y => x.id < y.id

/-- Counting the nodes of all functions from 1 on is all that it takes. -/
theorem Enumerated.of_counted {fs : List Function} {after : NodeId}
    (h : Counted 1 after (fs.flatMap Function.parts)) : Enumerated fs := by
  -- the nodes of one function are a stretch of those of all
  have hpart {before : List Function} {f : Function} {rest : List Function}
      (hfs : fs = before ++ f :: rest) :
      ∃ c, Counted (1 + ((before.flatMap Function.parts).length : Int)) c f.parts := by
    rw [hfs, List.flatMap_append, List.flatMap_cons] at h
    exact h.split.front
  constructor
  case nodup => exact h.nodup
  case exact_range =>
    intro i
    have hafter : after = 1 + ((fs.flatMap Function.parts).length : Int) := h.after_eq
    rw [h.mem_ids, hafter]
    refine and_congr_right fun _ => ?_
    rw [Int.add_comm]
    exact Int.lt_add_one_iff
  case contiguous =>
    intro before f rest hfs
    obtain ⟨c, hc⟩ := hpart hfs
    exact hc.ids_eq
  case walk_eq =>
    intro f _
    exact f.walk_eq_parts
  case walk_sorted =>
    intro f hf
    obtain ⟨before, rest, hfs⟩ := List.append_of_mem hf
    obtain ⟨c, hc⟩ := hpart hfs
    rw [f.walk_eq_parts, exprsOf, List.pairwise_filterMap]
    -- an expression has the identity that it has as a node
    refine hc.sorted.imp fun {m n} hlt x hx y hy => ?_
    cases m <;> cases hx
    cases n <;> cases hy
    exact hlt

/-- **Identities are unique and agree with the walk.** Functions that are lowered one after the other
differ from their lowered trees in the identities only, and those are given out from 1 on: to every
node of any sort one of its own, none left out, function by function, a node before its parts. -/
theorem enumerated_lowered (file : Option String) (fs : List FunctionDef) :
    ((lowerFunctions file 1 fs).filterMap Except.toOption).map Function.unnumbered
      = (Typing.withBodies fs).map
          (fun b => (lowerFunction { file := file } b.1 b.2).unnumbered) ∧
    Enumerated ((lowerFunctions file 1 fs).filterMap Except.toOption) := by
  rw [lowerFunctions_eq]
  obtain ⟨after, hcounted⟩ := Function.counted_numberAll
    ((Typing.withBodies fs).map fun b => lowerFunction { file := file } b.1 b.2) 1
  constructor
  · rw [Function.unnumbered_numberAll, List.map_map]
    rfl
  · exact .of_counted hcounted

end ClosureLint.Core
