import ClosureLint.Proofs.Grammar.Holes
import ClosureLint.Proofs.Lexing
import ClosureLint.Source.Slice

/-!
# Putting a piece of a text in the place of another

* `splice` — the text with another piece between two offsets.
* `Span.textIn_between`, `Span.textIn_append` — the text of an extent between two places, which is the
  same when the text goes on.
* `Lexes.run_text` — a run of tokens has a text of its own, which its offsets cut out.
* `Syntax.spliced_lexes` — where an argument is replaced by the text of some of its tokens, these tokens
  are what stands there, and all others stay.
-/

namespace ClosureLint

/-- The text `cs` with `piece` in the place of what stands between the offsets `a` and `b`. -/
def splice (cs : List Char) (a b : Nat) (piece : List Char) : List Char :=
  cs.take a ++ (piece ++ cs.drop b)

variable {cs : List Char} {q : Pos} {ts us vs : List Token}

/-- The extent of a run of tokens cuts its text out of the whole. -/
theorem Lexes.run_text {start stop : Pos} {text behind : List Char}
    (h : Lexes {} cs ts start (text ++ behind)) (hstop : stop = start.advanceAll text) :
    ∃ front, cs = front ++ (text ++ behind) ∧ start.offset = front.length ∧
      stop.offset = front.length + text.length := by
  obtain ⟨front, hcs, rfl⟩ := h.used
  refine ⟨front, hcs, ?_, ?_⟩
  · rw [Pos.offset_advanceAll, Nat.zero_add]
  · rw [hstop, Pos.offset_advanceAll, Pos.offset_advanceAll, Nat.zero_add]

theorem splice_append (front text behind piece : List Char) :
    splice (front ++ (text ++ behind)) front.length (front.length + text.length) piece
      = front ++ (piece ++ behind) := by
  unfold splice
  rw [List.take_left, ← List.drop_drop, List.drop_left, List.drop_left]

theorem slice_append (front text behind : List Char) :
    slice (front ++ (text ++ behind)) front.length (front.length + text.length : Nat) = text := by
  have hlength : front.length + text.length ≤ (front ++ (text ++ behind)).length := by
    simp only [List.length_append]
    omega
  rw [slice_eq_take_drop (Nat.le_add_right _ _) hlength, List.drop_left, Nat.add_sub_cancel_left,
    List.take_left]

/-- Offsets inside of a text cut out the same when the text goes on. -/
theorem slice_append_left {cs : List Char} {a b : Nat} (ha : a ≤ cs.length) (hb : b ≤ cs.length)
    (ds : List Char) : slice (cs ++ ds) a b = slice cs a b := by
  have hinside {n : Nat} (h : n ≤ cs.length) (k : Nat) : clampOffset (cs.length + k) n = n := by
    rw [clampOffset, if_neg (by omega), Int.toNat_natCast, Nat.min_eq_left (by omega)]
  have hwhole {n : Nat} (h : n ≤ cs.length) : clampOffset cs.length n = n := hinside h 0
  unfold slice
  dsimp only
  rw [List.length_append, hinside ha, hinside hb, hwhole ha, hwhole hb,
    List.drop_append_of_le_length ha, List.take_append_of_le_length]
  rw [List.length_drop]
  omega

/-- The text of an extent between two places. -/
theorem Span.textIn_between {s : Span} {a b : Pos} (h : s.toLoc = .between a b) (text : String) :
    s.textIn (some text) = some (String.ofList (slice text.toList a.offset b.offset)) := by
  have hstart : s.startPos = some (a.offset : Int) := congrArg Loc.startPos h
  have hend : s.endPos = some (b.offset : Int) := congrArg Loc.endPos h
  simp only [Span.textIn, hstart, hend]

/-- It is the same when the text goes on. -/
theorem Span.textIn_append {s : Span} {a b : Pos} {text : String} (h : s.toLoc = .between a b)
    (ha : a.offset ≤ text.toList.length) (hb : b.offset ≤ text.toList.length) (rest : String) :
    s.textIn (some (text ++ rest)) = s.textIn (some text) := by
  rw [Span.textIn_between h, Span.textIn_between h, String.toList_append, slice_append_left ha hb]

namespace Syntax

theorem startOf_of_head? {us : List Token} {p : Pos} (hp : us.head?.map Token.start = some p) :
    startOf us = p := by
  cases us with
  | nil => cases hp
  | cons u us => exact Option.some.inj hp

theorem stopOf_of_getLast? {us : List Token} {p : Pos} (hp : us.getLast?.map Token.stop = some p) :
    stopOf us = p := by
  rw [stopOf, hp]
  rfl

/-- **An argument may be replaced by a piece of itself.** The tokens between `before` and `behind`
make way for the run `ds` among them; the text that comes of it falls into the tokens in front, that
run and the tokens behind, all of them at other places. -/
theorem spliced_lexes {before L ds R behind : List Token}
    (h : Lexes {} cs (before ++ (L ++ (ds ++ R) ++ behind)) q []) (hopen : Opens before)
    (hclose : Closes behind) (hds : ds ≠ []) :
    ∃ q' us, (startOf (L ++ (ds ++ R))).offset ≤ (stopOf (L ++ (ds ++ R))).offset ∧
      (stopOf (L ++ (ds ++ R))).offset ≤ cs.length ∧
      Lexes {} (splice cs (startOf (L ++ (ds ++ R))).offset (stopOf (L ++ (ds ++ R))).offset
        (slice cs (startOf ds).offset (stopOf ds).offset)) us q' [] ∧
      faces us = faces (before ++ (ds ++ behind)) := by
  -- the replaced run and the one that takes its place, each cut out of the text
  have hwhole : L ++ (ds ++ R) ≠ [] := by simp [hds]
  obtain ⟨start, stop, text, rest, hstart, hstop, hfront, hgap, hne, hadvance, -, hbehind⟩ :=
    h.cut_run hwhole
  have hinner : Lexes {} cs (before ++ L ++ (ds ++ (R ++ behind))) q [] := by
    simpa only [List.append_assoc] using h
  obtain ⟨start', stop', piece, rest', hstart', hstop', hfront', hgap', -, hadvance', hrun, -⟩ :=
    hinner.cut_run hds
  rw [startOf_of_head? hstart, stopOf_of_getLast? hstop, startOf_of_head? hstart',
    stopOf_of_getLast? hstop']
  obtain ⟨front, hcs, hoffset, hend⟩ := hfront.run_text hadvance
  obtain ⟨front', hcs', hoffset', hend'⟩ := hfront'.run_text hadvance'
  have hpiece : slice cs start'.offset stop'.offset = piece := by
    rw [hcs', hoffset', hend']
    exact slice_append front' piece rest'
  have hsplice : splice cs start.offset stop.offset piece = front ++ (piece ++ rest) := by
    rw [hcs, hoffset, hend]
    exact splice_append front text rest piece
  rw [hpiece, hsplice]
  -- in front: behind an opener the text may go on with anything that begins with no gap
  obtain ⟨t, ht, hkind⟩ := hopen
  have hhead : ∃ c ∈ (text ++ rest).head?, c ≠ '\n' := by
    obtain ⟨c, text, rfl⟩ := List.exists_cons_of_ne_nil hne
    refine ⟨c, rfl, ?_⟩
    rintro rfl
    exact absurd (hgap '\n' rfl) (by decide)
  have hpne : piece ≠ [] := by
    rintro rfl
    have hnil : Lexes start' [] ds stop' [] := hrun [] fun _ hd => by cases hd
    exact hds (Lexes.eq_nil (hadvance' ▸ hnil))
  rw [hcs] at hfront
  have hfront₁ : Lexes {} (front ++ (piece ++ rest)) before start (piece ++ rest) :=
    hfront.reopened ht hkind hhead (hgap'.append hpne rest)
  -- the piece itself, in front of what ends an argument
  obtain ⟨u, hu, hukind⟩ := hclose
  obtain ⟨us, rfl⟩ : ∃ us, behind = u :: us := by
    cases behind with
    | nil => cases hu
    | cons v vs => exact ⟨vs, by rw [Option.some.inj hu]⟩
  obtain ⟨c, hc, hcloser⟩ := hbehind.head_closer hukind
  have hpiece₁ : Lexes start' (piece ++ rest) ds stop' rest :=
    hrun rest fun d hd => by
      rw [hc] at hd
      exact Option.some.inj hd ▸ hcloser
  obtain ⟨ds', q₁, hds', hfaces⟩ := hpiece₁.moved start
  obtain ⟨behind', q₂, hbehind', hfaces'⟩ := hbehind.moved q₁
  refine ⟨q₂, before ++ (ds' ++ behind'), ?_, ?_, hfront₁.append (hds'.append hbehind'), ?_⟩
  · rw [hoffset, hend]
    exact Nat.le_add_right _ _
  · rw [hend, hcs]
    simp only [List.length_append]
    omega
  · unfold faces at hfaces hfaces' ⊢
    simp only [List.map_append, hfaces, hfaces']

end Syntax

end ClosureLint
