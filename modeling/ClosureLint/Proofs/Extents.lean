import ClosureLint.Proofs.Grammar.Nodes
import ClosureLint.Proofs.Outcome
import ClosureLint.Proofs.Positions
import Mathlib.Data.List.Induction

/-!
# Extents nest and never overlap

Where the nodes of a program lie in its text. A node reaches from the start of a token to the stop of
one, its children lie inside of it, and none of them begins before the one in front has ended.

* `placeAt` — line and column of an offset, counted from the text; `Lexes.placed` — tokens start and
  stop at such places.
* `Spaced` — tokens that take up room of their own, and the extents of runs of them.
* `Loc.Within`, `Loc.Ahead` — one extent inside of another, and in front of it.
* `Placed` — what holds of the extents of a node and of its children.
* `extents_nest` — it holds of every node of every program.
-/

namespace ClosureLint

/-! ### Lines and columns -/

/-- The place at an offset of a text: its line is counted by the line feeds in front of it, its column
by the characters behind the last of them. -/
def placeAt (cs : List Char) (offset : Nat) : Pos where
  offset := offset
  line := (cs.take offset).count '\n' + 1
  column := ((cs.take offset).reverse.takeWhile (· ≠ '\n')).length + 1

/-- **Counting forward** from the start of a text comes to the same place. -/
theorem advanceAll_eq_placeAt (used rest : List Char) :
    Pos.advanceAll {} used = placeAt (used ++ rest) used.length := by
  suffices hwhole : Pos.advanceAll {} used = placeAt used used.length by
    rw [hwhole, placeAt, placeAt, List.take_left, List.take_length]
  -- by the last character, which either starts a line or moves one column on
  induction used using List.reverseRecOn with
  | nil => rfl
  | append_singleton used c ih =>
    rw [Pos.advanceAll_append, ih, Pos.advanceAll_cons, Pos.advanceAll_nil, placeAt, placeAt,
      List.take_length, List.take_length, List.reverse_append, List.count_append, Pos.advance]
    by_cases hc : c = '\n'
    · subst hc
      simp
    · simp [hc]

variable {p q : Pos} {cs rest : List Char} {ts us : List Token}

/-- Tokens start and stop inside of the text, at the places of their offsets. -/
theorem Lexes.placed (h : Lexes {} cs ts q rest) : ∀ t ∈ ts,
    t.start = placeAt cs t.start.offset ∧ t.stop = placeAt cs t.stop.offset := by
  intro t ht
  obtain ⟨front, behind, rfl⟩ := List.append_of_mem ht
  obtain ⟨text, follow, hfront, -, -, hstop, -⟩ := h.cut
  -- the offset is how much of the text is used
  obtain ⟨used, rfl, hstart⟩ := hfront.used
  have hoffset : t.start.offset = used.length := by
    rw [hstart, Pos.offset_advanceAll, Nat.zero_add]
  have hstop' : t.stop = Pos.advanceAll {} (used ++ text) := by
    rw [hstop, hstart, Pos.advanceAll_append]
  have hoffset' : t.stop.offset = (used ++ text).length := by
    rw [hstop', Pos.offset_advanceAll, Nat.zero_add]
  constructor
  · rw [hoffset, hstart]
    exact advanceAll_eq_placeAt used _
  · rw [hoffset', hstop', ← List.append_assoc]
    exact advanceAll_eq_placeAt (used ++ text) _

/-! ### Tokens with room of their own -/

/-- Every token stops behind its start and before the next one starts. -/
def Spaced (ts : List Token) : Prop :=
  (ts.Pairwise fun t u => t.stop.offset ≤ u.start.offset) ∧
    ∀ t ∈ ts, t.start.offset < t.stop.offset

theorem Lexes.tokens_spaced (h : Lexes p cs ts q rest) : Spaced ts :=
  ⟨h.apart.1, fun t ht => (h.apart.2 t ht).2⟩

theorem Spaced.run (h : Spaced ts) (hus : us <:+: ts) : Spaced us :=
  ⟨h.1.sublist hus.sublist, fun t ht => h.2 t (hus.subset ht)⟩

open Syntax (startOf stopOf extentOf)

theorem startOf_mem (h : ts ≠ []) : ∃ t ∈ ts, startOf ts = t.start := by
  obtain ⟨t, ts, rfl⟩ := List.exists_cons_of_ne_nil h
  exact ⟨t, List.mem_cons_self, rfl⟩

theorem stopOf_mem (h : ts ≠ []) : ∃ t ∈ ts, stopOf ts = t.stop := by
  refine ⟨ts.getLast h, List.getLast_mem h, ?_⟩
  rw [stopOf, List.getLast?_eq_some_getLast h]
  rfl

/-- The first of the tokens starts before all others. -/
theorem Spaced.startOf_le (h : Spaced ts) {t : Token} (ht : t ∈ ts) :
    (startOf ts).offset ≤ t.start.offset := by
  cases ts with
  | nil => exact absurd ht List.not_mem_nil
  | cons u us =>
    rcases List.mem_cons.mp ht with rfl | hlater
    · exact Nat.le_refl _
    · have hgap := List.rel_of_pairwise_cons h.1 hlater
      have hroom := h.2 u List.mem_cons_self
      show u.start.offset ≤ t.start.offset
      omega

/-- The last one stops behind all others. -/
theorem Spaced.le_stopOf (h : Spaced ts) {t : Token} (ht : t ∈ ts) :
    t.stop.offset ≤ (stopOf ts).offset := by
  induction ts with
  | nil => exact absurd ht List.not_mem_nil
  | cons u us ih =>
    have hus : Spaced us := h.run (List.suffix_cons u us).isInfix
    by_cases hne : us = []
    · subst hne
      obtain rfl := List.mem_singleton.mp ht
      exact Nat.le_refl _
    · rw [Syntax.stopOf_cons u hne]
      rcases List.mem_cons.mp ht with rfl | hlater
      -- the list stops where one of the later tokens does
      · obtain ⟨v, hv, hlast⟩ := stopOf_mem hne
        have hgap := List.rel_of_pairwise_cons h.1 hv
        have hroom := h.2 v (List.mem_cons_of_mem _ hv)
        rw [hlast]
        omega
      · exact ih hus hlater

/-- Tokens take up some room. -/
theorem Spaced.startOf_lt_stopOf (h : Spaced ts) (hne : ts ≠ []) :
    (startOf ts).offset < (stopOf ts).offset := by
  obtain ⟨t, ht, hstart⟩ := startOf_mem hne
  rw [hstart]
  exact Nat.lt_of_lt_of_le (h.2 t ht) (h.le_stopOf ht)

/-! ### Extents -/

/-- The extent `l` lies inside of the extent `m`. -/
def Loc.Within (l m : Loc) : Prop :=
  ∃ a b c d : Int, l.startPos = some a ∧ l.endPos = some b ∧ m.startPos = some c ∧
    m.endPos = some d ∧ c ≤ a ∧ b ≤ d

/-- The extent `l` ends before the extent `m` begins. -/
def Loc.Ahead (l m : Loc) : Prop :=
  ∃ b c : Int, l.endPos = some b ∧ m.startPos = some c ∧ b ≤ c

/-- What a run among the tokens covers lies inside of what they cover. -/
theorem Spaced.within (h : Spaced ts) (hus : us <:+: ts) (hne : us ≠ []) :
    (extentOf us).Within (extentOf ts) := by
  obtain ⟨t, ht, hstart⟩ := startOf_mem hne
  obtain ⟨u, hu, hstop⟩ := stopOf_mem hne
  refine ⟨_, _, _, _, rfl, rfl, rfl, rfl, ?_, ?_⟩
  · rw [hstart]
    exact Int.ofNat_le.mpr (h.startOf_le (hus.subset ht))
  · rw [hstop]
    exact Int.ofNat_le.mpr (h.le_stopOf (hus.subset hu))

/-- A run in front of another one ends before that begins. -/
theorem Spaced.ahead (h : Spaced (ts ++ us)) {run run' : List Token} (hrun : run <:+: ts)
    (hrun' : run' <:+: us) (hne : run ≠ []) (hne' : run' ≠ []) :
    (extentOf run).Ahead (extentOf run') := by
  obtain ⟨t, ht, hstop⟩ := stopOf_mem hne
  obtain ⟨u, hu, hstart⟩ := startOf_mem hne'
  refine ⟨_, _, rfl, rfl, ?_⟩
  rw [hstop, hstart]
  exact Int.ofNat_le.mpr
    ((List.pairwise_append.mp h.1).2.2 t (hrun.subset ht) u (hrun'.subset hu))

namespace Syntax

/-- A node that is written in some tokens covers some of them. -/
theorem TreeNode.Formed.loc_eq {n : TreeNode} (h : n.Formed ts) :
    ∃ core, core <:+: ts ∧ core ≠ [] ∧ n.loc = extentOf core := by
  obtain ⟨core, hinfix, hcovers⟩ := h.covered
  exact ⟨core, hinfix, hcovers.formed.ne_nil, hcovers.loc⟩

/-- Nodes that are written in runs of tokens lie one in front of the other. -/
theorem Runs.ahead {ns : List TreeNode} (h : Runs ts ns) (hts : Spaced ts) :
    ns.Pairwise fun m n => m.loc.Ahead n.loc := by
  induction h with
  | nil => exact .nil
  | @cons gap run rest m ns hm hns ih =>
    have hboth : Spaced (run ++ rest) := hts.run (List.suffix_append _ _).isInfix
    refine .cons (fun n hn => ?_) (ih (hboth.run (List.suffix_append _ _).isInfix))
    -- a node extends over some of its run, without the parentheses around it
    obtain ⟨core, hcore, hne, hloc⟩ := hm.loc_eq
    obtain ⟨run', hrun', hformed⟩ := hns.formed hn
    obtain ⟨core', hcore', hne', hloc'⟩ := hformed.loc_eq
    rw [hloc, hloc']
    exact hboth.ahead hcore (hcore'.trans hrun') hne hne'

/-- What holds of the extents of a node in a text and of its children. -/
structure Placed (source : String) (n : TreeNode) : Prop where
  /-- It reaches from the start of a token to the stop of one. -/
  tokens : ∃ t ∈ (lex source).tokens, ∃ u ∈ (lex source).tokens, n.loc = .between t.start u.stop
  /-- The first of its offsets is the smaller one, and both have the lines and columns that the extent
  says. -/
  offsets : ∃ i j : Nat, i < j ∧ j ≤ source.toList.length ∧
    n.loc = .between (placeAt source.toList i) (placeAt source.toList j)
  /-- Its children lie inside of it. -/
  children_within : ∀ m ∈ n.children, m.loc.Within n.loc
  /-- Each of them ends before the next one begins. -/
  children_ahead : n.children.Pairwise fun l m => l.loc.Ahead m.loc

theorem TreeNode.Covers.placed {source : String} {n : TreeNode} (h : n.Covers ts) {cs : List Char}
    (hcs : cs = source.toList) (hlexes : Lexes {} cs (lex source).tokens q [])
    (hts : ts <:+: (lex source).tokens) : Placed source n := by
  subst hcs
  have hne := h.formed.ne_nil
  have hspaced : Spaced ts := hlexes.tokens_spaced.run hts
  -- it starts where a token starts and stops where one stops
  obtain ⟨t, ht, hstart⟩ := startOf_mem hne
  obtain ⟨u, hu, hstop⟩ := stopOf_mem hne
  have hloc : n.loc = .between t.start u.stop := by rw [h.loc, extentOf, hstart, hstop]
  have ht' := hts.subset ht
  have hu' := hts.subset hu
  refine ⟨⟨t, ht', u, hu', hloc⟩, ⟨t.start.offset, u.stop.offset, ?_, ?_, ?_⟩, fun m hm => ?_,
    h.children.ahead hspaced⟩
  · rw [← hstart, ← hstop]
    exact hspaced.startOf_lt_stopOf hne
  · have hle := hlexes.stop_le u hu'
    rwa [show ({} : Pos).offset = 0 from rfl, Nat.zero_add] at hle
  · rw [hloc, ← (hlexes.placed t ht').1, ← (hlexes.placed u hu').2]
  · obtain ⟨run, hrun, hformed⟩ := h.children.formed hm
    obtain ⟨core, hcore, hne', hloc'⟩ := hformed.loc_eq
    rw [hloc', h.loc]
    exact hspaced.within (hcore.trans hrun) hne'

/-- **Extents nest and never overlap.** In a text that can be read the items lie one in front of the
other, and every node is placed well: it begins before it ends, at the start of a token and the stop of
one, with the lines and columns of these offsets; and its children lie inside of it, one in front of
the other. -/
theorem extents_nest {source : String} {p : Program} (h : parse source = .ok p) :
    (∃ items, p = .ofItems source items ∧
      (items.map Item.node).Pairwise fun m n => m.loc.Ahead n.loc) ∧
    ∀ n : TreeNode, n.In p → Placed source n := by
  obtain ⟨hstuck, items, hitems, hp⟩ := parse_sound h
  obtain ⟨q, hlexes⟩ := lexes_of_lex hstuck
  refine ⟨⟨items, hp, (hitems.runs rfl).ahead hlexes.tokens_spaced⟩, fun n hn => ?_⟩
  obtain ⟨core, hcore, hcovers⟩ := hn.covered h
  exact hcovers.placed rfl hlexes hcore

/-- A call over two lines, whose callee is in parentheses. -/
def parenthesizedCallee : String :=
  "fn f() \x7b\n  (g)(|&(a), (b, _): ((u8),)| ((a)), // c\n    w!((h(a))));\n\x7d\n"

/-- The call begins at the parenthesis, the callee behind it. -/
theorem extents_nest_parenthesized : ∃ p e, parse parenthesizedCallee = .ok p ∧ (TreeNode.expr e).In p ∧
    e.loc = ⟨some 2, some 3, some 3, some 16, some 11, some 66⟩ ∧
    (TreeNode.expr e).children.map (fun m => (m.loc.startPos, m.loc.endPos))
      = [(some 12, some 13), (some 15, some 44), (some 55, some 65)] ∧
    Placed parenthesizedCallee (.expr e) := by
  have hfound : (parse parenthesizedCallee).toOption.any (fun p => (onlyExpr? p).any fun e =>
      decide (e.loc = ⟨some 2, some 3, some 3, some 16, some 11, some 66⟩) &&
        decide ((TreeNode.expr e).children.map (fun m => (m.loc.startPos, m.loc.endPos))
          = [(some 12, some 13), (some 15, some 44), (some 55, some 65)])) = true := by decide +kernel
  obtain ⟨p, hp, hfound⟩ := (Option.any_eq_true _ _).mp hfound
  obtain ⟨e, he, hfound⟩ := (Option.any_eq_true _ _).mp hfound
  obtain ⟨hloc, hchildren⟩ := Bool.and_eq_true_iff.mp hfound
  have hparse := toOption_eq_some.mp hp
  have hin := onlyExpr?_in he
  exact ⟨p, e, hparse, hin, of_decide_eq_true hloc, of_decide_eq_true hchildren,
    (extents_nest hparse).2 _ hin⟩

end Syntax

end ClosureLint
