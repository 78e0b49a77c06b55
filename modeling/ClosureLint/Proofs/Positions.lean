import ClosureLint.Proofs.Grammar.Starts
import ClosureLint.Proofs.Lexing

/-!
# Tokens come one behind the other

* `Pos.Before` — the order of places in a text, by line and column.
* `Lexes.ordered` — every token starts behind those in front of it.
* `Lexes.places_nodup` — so no two tokens start at the same line and column.
* `Lexes.apart`, `Lexes.stop_le` — every token stops before the next one starts, by offsets, and none
  behind the end of the text.
-/

namespace ClosureLint

/-- `p` lies on an earlier line than `q`, or in front of it on the same one. -/
def Pos.Before (p q : Pos) : Prop := p.line < q.line ∨ p.line = q.line ∧ p.column < q.column

theorem Pos.Before.trans {p q r : Pos} (h : p.Before q) (h' : q.Before r) : p.Before r := by
  unfold Pos.Before at *
  omega

theorem Pos.before_advance (p : Pos) (c : Char) : p.Before (p.advance c) := by
  unfold Pos.advance
  split
  · exact .inl (Nat.lt_succ_self _)
  · exact .inr ⟨rfl, Nat.lt_succ_self _⟩

/-- A text that is not empty ends behind its start. -/
theorem Pos.before_advanceAll {text : List Char} (h : text ≠ []) (p : Pos) :
    p.Before (p.advanceAll text) := by
  obtain ⟨c, text, rfl⟩ := List.exists_cons_of_ne_nil h
  rw [advanceAll_cons]
  induction text generalizing p c with
  | nil => exact p.before_advance c
  | cons d text ih => exact (p.before_advance c).trans (ih (p.advance c) d (List.cons_ne_nil _ _))

variable {p q : Pos} {cs rest : List Char} {ts : List Token}

/-- **Tokens start one behind the other**, none of them in front of where the text starts. -/
theorem Lexes.ordered (h : Lexes p cs ts q rest) :
    (ts.Pairwise fun t u => t.start.Before u.start) ∧ ∀ t ∈ ts, t.start = p ∨ p.Before t.start := by
  induction h with
  | done => exact ⟨.nil, fun _ ht => absurd ht List.not_mem_nil⟩
  | @gap p _ text _ _ _ hm _ ih =>
    have hgap := p.before_advanceAll hm.ne_nil
    refine ⟨ih.1, fun t ht => .inr ?_⟩
    rcases ih.2 t ht with hstart | hstart
    · exact hstart ▸ hgap
    · exact hgap.trans hstart
  | @token p _ text _ _ _ ts hm _ ih =>
    -- a token takes up text, so all later ones start behind it
    have htoken := p.before_advanceAll hm.ne_nil
    have hlater : ∀ t ∈ ts, p.Before t.start := fun t ht => by
      rcases ih.2 t ht with hstart | hstart
      · exact hstart ▸ htoken
      · exact htoken.trans hstart
    refine ⟨List.pairwise_cons.mpr ⟨hlater, ih.1⟩, fun t ht => ?_⟩
    rcases List.mem_cons.mp ht with rfl | ht
    · exact .inl rfl
    · exact .inr (hlater t ht)

/-- No two tokens start at the same line and column. -/
theorem Lexes.places_nodup (h : Lexes p cs ts q rest) : (Syntax.places ts).Nodup := by
  refine List.pairwise_map.mpr (h.ordered.1.imp fun {t u} hbefore heq => ?_)
  obtain ⟨hline, hcolumn⟩ := Prod.mk.inj heq
  have hline : (t.start.line : Int) = u.start.line := Option.some.inj hline
  have hcolumn : (t.start.column : Int) = u.start.column := Option.some.inj hcolumn
  unfold Pos.Before at hbefore
  omega

/-- The tokens of a text start in their order, and no two at the same place. -/
theorem Lexes.before_iff (h : Lexes p cs ts q rest) {i j : Nat} {t u : Token} (hi : ts[i]? = some t)
    (hj : ts[j]? = some u) : t.start.Before u.start ↔ i < j := by
  -- one direction is that the tokens are in order
  have hordered {i j : Nat} {t u : Token} (hi : ts[i]? = some t) (hj : ts[j]? = some u)
      (hij : i < j) : t.start.Before u.start := by
    obtain ⟨hi', rfl⟩ := List.getElem?_eq_some_iff.mp hi
    obtain ⟨hj', rfl⟩ := List.getElem?_eq_some_iff.mp hj
    exact List.pairwise_iff_getElem.mp h.ordered.1 i j hi' hj' hij
  refine ⟨fun hbefore => ?_, hordered hi hj⟩
  rcases Nat.lt_trichotomy i j with hij | rfl | hji
  · exact hij
  · obtain rfl := Option.some.inj (hi.symm.trans hj)
    unfold Pos.Before at hbefore
    omega
  · have hlater := hordered hj hi hji
    unfold Pos.Before at hbefore hlater
    omega

/-! ### Offsets -/

/-- **Tokens take up room of their own**: each of them stops behind its start, and before the next one
starts. -/
theorem Lexes.apart (h : Lexes p cs ts q rest) :
    (ts.Pairwise fun t u => t.stop.offset ≤ u.start.offset) ∧
      ∀ t ∈ ts, p.offset ≤ t.start.offset ∧ t.start.offset < t.stop.offset := by
  induction h with
  | done => exact ⟨.nil, fun _ ht => absurd ht List.not_mem_nil⟩
  | @gap p _ text _ _ _ _ _ ih =>
    refine ⟨ih.1, fun t ht => ?_⟩
    have := ih.2 t ht
    rw [Pos.offset_advanceAll] at this
    omega
  | @token p _ text _ _ _ ts hm _ ih =>
    have hlength := List.length_pos_iff.mpr hm.ne_nil
    refine ⟨List.pairwise_cons.mpr ⟨fun t ht => (ih.2 t ht).1, ih.1⟩, fun t ht => ?_⟩
    -- the token itself stops where its text does
    rcases List.mem_cons.mp ht with rfl | ht
    · have hstop := Pos.offset_advanceAll p text
      refine ⟨Nat.le_refl _, ?_⟩
      dsimp only
      omega
    · have := ih.2 t ht
      rw [Pos.offset_advanceAll] at this
      omega

/-- **Tokens stop inside of the text** that falls into them. -/
theorem Lexes.stop_le (h : Lexes p cs ts q rest) : ∀ t ∈ ts, t.stop.offset ≤ p.offset + cs.length := by
  induction h with
  | done => exact List.forall_mem_nil _
  | gap _ _ ih =>
    intro t ht
    have hstop := ih t ht
    rw [Pos.offset_advanceAll] at hstop
    rw [List.length_append]
    omega
  | token _ _ ih =>
    refine List.forall_mem_cons.mpr ⟨?_, fun t ht => ?_⟩
    · rw [Pos.offset_advanceAll, List.length_append]
      omega
    · have hstop := ih t ht
      rw [Pos.offset_advanceAll] at hstop
      rw [List.length_append]
      omega

/-- No two tokens start at the same offset. -/
theorem Lexes.starts_nodup (h : Lexes p cs ts q rest) :
    (ts.map fun t => (t.start.offset : Int)).Nodup := by
  refine List.pairwise_map.mpr (h.apart.1.imp_of_mem fun {t u} ht hu hapart heq => ?_)
  have := (h.apart.2 t ht).2
  omega

/-- No two tokens stop at the same offset. -/
theorem Lexes.stops_nodup (h : Lexes p cs ts q rest) :
    (ts.map fun t => (t.stop.offset : Int)).Nodup := by
  refine List.pairwise_map.mpr (h.apart.1.imp_of_mem fun {t u} ht hu hapart heq => ?_)
  have := (h.apart.2 u hu).2
  omega

end ClosureLint
