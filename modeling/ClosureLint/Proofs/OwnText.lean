import ClosureLint.Proofs.Extents
import ClosureLint.Proofs.Grammar.Productions
import ClosureLint.Proofs.Reformatting
import ClosureLint.Proofs.Types.RoundTrip

/-!
# The text of an extent

What a text holds between the offsets of an expression, a written type or a pattern is a way to write
that: put where such a thing may stand, it is read as the same tree.

* `TypeExpr.bare_relocate`, `Pattern.bare_relocate`, `Expr.bare_relocate` — a tree that is laid out
  anew is the same, its places aside.
* `Piece`, `Lexes.piece` — the text of a run of tokens, which falls into these tokens wherever it stands.
* `Slot`, `Slot.read?` — a place in a small program, and what is read there; `exprSlot`, `typeSlot`,
  `patternSlot`.
* `text_of_extent` — the text of an extent is read as the node that has it.
-/

namespace ClosureLint

open Syntax (startOf stopOf extentOf Layout)

namespace Syntax

/-! ### Trees elsewhere -/

section

variable {g : Loc → Loc}

mutual

theorem TypeExpr.bare_relocate : (t : TypeExpr) → (t.relocate g).bare = t.bare
  | .named _ path args => congrArg (TypeExpr.named {} path) (TypeExpr.bareAll_relocate args)
  | .ref _ isMut inner => congrArg (TypeExpr.ref {} isMut) inner.bare_relocate
  | .array _ elem length => congrArg (TypeExpr.array {} · length) elem.bare_relocate
  | .slice _ elem => congrArg (TypeExpr.slice {}) elem.bare_relocate
  | .tuple _ elems => congrArg (TypeExpr.tuple {}) (TypeExpr.bareAll_relocate elems)
  | .fnPtr _ isUnsafe params none =>
    congrArg (TypeExpr.fnPtr {} isUnsafe · none) (TypeExpr.bareAll_relocate params)
  | .fnPtr _ isUnsafe params (some ret) =>
    congrArg₂ (fun ps r => TypeExpr.fnPtr {} isUnsafe ps (some r)) (TypeExpr.bareAll_relocate params)
      ret.bare_relocate

theorem TypeExpr.bareAll_relocate :
    (ts : List TypeExpr) → TypeExpr.bareAll (TypeExpr.relocateAll g ts) = TypeExpr.bareAll ts
  | [] => rfl
  | t :: ts => congrArg₂ List.cons t.bare_relocate (TypeExpr.bareAll_relocate ts)

end

theorem TypeExpr.map_bare_relocate (t : Option TypeExpr) :
    (t.map (TypeExpr.relocate g)).map TypeExpr.bare = t.map TypeExpr.bare := by
  cases t with
  | none => rfl
  | some t => exact congrArg some t.bare_relocate

mutual

theorem Pattern.bare_relocate : (p : Pattern) → (p.relocate g).bare = p.bare
  | .binding .. | .wildcard _ => rfl
  | .tuple _ elems => congrArg (Pattern.tuple {}) (Pattern.bareAll_relocate elems)
  | .ref _ inner => congrArg (Pattern.ref {}) inner.bare_relocate

theorem Pattern.bareAll_relocate :
    (ps : List Pattern) → Pattern.bareAll (Pattern.relocateAll g ps) = Pattern.bareAll ps
  | [] => rfl
  | p :: ps => congrArg₂ List.cons p.bare_relocate (Pattern.bareAll_relocate ps)

end

theorem ClosureParam.bare_relocate (q : ClosureParam) : (q.relocate g).bare = q.bare := by
  unfold ClosureParam.relocate ClosureParam.bare
  rw [q.pattern.bare_relocate, TypeExpr.map_bare_relocate]

mutual

/-- **An expression elsewhere** is the same, its places aside. -/
theorem Expr.bare_relocate : (e : Expr) → (e.relocate g).bare = e.bare
  | .path .. | .int .. | .str .. => rfl
  | .borrow _ isMut operand => congrArg (Expr.borrow {} isMut) operand.bare_relocate
  | .deref _ operand => congrArg (Expr.deref {}) operand.bare_relocate
  | .field _ subject name => congrArg (Expr.field {} · name) subject.bare_relocate
  | .call _ callee args =>
    congrArg₂ (Expr.call {}) callee.bare_relocate (Expr.bareAll_relocate args)
  | .methodCall _ receiver method args =>
    congrArg₂ (Expr.methodCall {} · method ·) receiver.bare_relocate (Expr.bareAll_relocate args)
  | .closure _ params ret body => by
    have hparams : (params.map (ClosureParam.relocate g)).map ClosureParam.bare
        = params.map ClosureParam.bare := by
      rw [List.map_map]
      exact List.map_congr_left fun q _ => q.bare_relocate
    rw [Expr.relocate, Expr.bare, Expr.bare, hparams, TypeExpr.map_bare_relocate, body.bare_relocate]
  | .macroCall _ name expansion => congrArg (Expr.macroCall {} name) expansion.bare_relocate

theorem Expr.bareAll_relocate :
    (es : List Expr) → Expr.bareAll (Expr.relocateAll g es) = Expr.bareAll es
  | [] => rfl
  | e :: es => congrArg₂ List.cons e.bare_relocate (Expr.bareAll_relocate es)

end

end

end Syntax

/-! ### Pieces of text -/

variable {cs text : List Char} {q : Pos} {ts us : List Token}

/-- Wherever the text stands, it falls into the tokens `ts` in another layout, in front of anything that
may follow an argument. -/
structure Piece (text : List Char) (ts : List Token) : Prop where
  head : Stops isGap text
  ne_nil : text ≠ []
  lexes : ∀ (p : Pos) {behind : List Char}, (∀ c ∈ behind.head?, c ∈ closers) →
    ∃ (L : Layout) (q : Pos), Lexes p (text ++ behind) (ts.map L.token) q behind

/-- **A run of tokens** has a text of its own, which its extent cuts out. -/
theorem Lexes.piece (h : Lexes {} cs ts q []) (hus : us <:+: ts) (hne : us ≠ []) :
    Piece (slice cs (startOf us).offset (stopOf us).offset) us := by
  -- no two of the tokens begin or end together, so the layout of any others can be told from theirs
  have hstarts := h.starts_nodup.sublist (hus.sublist.map _)
  have hstops := h.stops_nodup.sublist (hus.sublist.map _)
  obtain ⟨front, behind, rfl⟩ := hus
  rw [List.append_assoc] at h
  obtain ⟨start, stop, text, rest, hstart, hstop, hfront, hhead, htext, hadvance, hrun, -⟩ :=
    h.cut_run hne
  obtain ⟨before, rfl, hoffset, hend⟩ := hfront.run_text hadvance
  obtain ⟨t, us, rfl⟩ := List.exists_cons_of_ne_nil hne
  have hstart' : startOf (t :: us) = start := Option.some.inj hstart
  have hstop' : stopOf (t :: us) = stop := by
    rw [stopOf, hstop]
    rfl
  rw [hstart', hstop', hoffset, hend, slice_append]
  refine ⟨hhead, htext, fun p behind hclose => ?_⟩
  obtain ⟨vs, q', hvs, hfaces⟩ := (hrun behind hclose).moved p
  exact ⟨.onto (t :: us) vs, q', (Layout.map_token_onto hstarts hstops hfaces).symm ▸ hvs⟩

namespace Syntax

/-! ### Places to read a piece of text at -/

/-- A place in a program where a piece of text may stand, and what is read there. -/
structure Slot (α : Type) where
  before : String
  behind : String
  pick : Program → Option α

/-- What is read at the place, if the program with the text there can be read. -/
def Slot.read? {α : Type} (slot : Slot α) (text : String) : Option α :=
  (parse (slot.before ++ text ++ slot.behind)).toOption.bind slot.pick

/-- The place of an expression: a statement. -/
def exprSlot : Slot Expr where
  before := "fn f() \x7b "
  behind := " ; \x7d"
  pick := onlyExpr?

/-- The place of a pattern: the parameter of a closure. -/
def patternSlot : Slot Pattern where
  before := "fn f() \x7b | "
  behind := " | f ; \x7d"
  pick p := ((onlyExpr? p).bind onlyParam?).map ClosureParam.pattern

/-- The place of a written type: behind the arrow of a struct. -/
def typeSlot : Slot TypeExpr where
  before := "struct S -> "
  behind := " ;"
  pick p :=
    match p.structs with
    | [d] => d.derefTarget
    | _ => none

theorem Slot.read?_eq_some {α : Type} {slot : Slot α} {piece : String} {items : List Item}
    {tokens : List Token} {a : α}
    (hlexes : Lexes {} (slot.before.toList ++ (piece.toList ++ slot.behind.toList)) tokens q [])
    (hitems : IsItems tokens items [])
    (hpick : ∀ source, slot.pick (.ofItems source items) = some a) : slot.read? piece = some a := by
  -- the text around the piece and the piece are one text
  have hlex : lex (slot.before ++ piece ++ slot.behind) = ⟨tokens, none⟩ := by
    refine lex_iff.mpr ⟨q, ?_⟩
    rw [String.toList_append, String.toList_append, List.append_assoc]
    exact hlexes
  have htokens : (lex (slot.before ++ piece ++ slot.behind)).tokens = tokens :=
    congrArg Lexed.tokens hlex
  rw [← htokens] at hitems
  rw [Slot.read?, toOption_eq_some.mpr (parse_complete (congrArg Lexed.stuck hlex) hitems)]
  exact hpick _

theorem closes_space (rest : List Char) : ∀ c ∈ (' ' :: rest).head?, c ∈ closers := fun c hc =>
  Option.some.inj hc ▸ (by decide)

theorem lexes_space_before (h : Stops isGap text) (hne : text ≠ []) (start : Pos) (rest : List Char) :
    ∃ q, Lexes start (' ' :: (text ++ rest)) [] q (text ++ rest) :=
  lexes_space start (h.append hne rest)

/-- A text that is an expression wherever it stands is read as one where a statement may stand. -/
theorem onlyExpr_read {P : Expr → Prop} (hhead : Stops isGap text) (hne : text ≠ [])
    (hreads : ∀ p : Pos, ∃ us q e, Lexes p (text ++ " ; \x7d".toList) us q " ; \x7d".toList ∧
      IsExpr us e [] ∧ P e) :
    ∃ tokens q items e, Lexes {} ("fn f() \x7b ".toList ++ (text ++ " ; \x7d".toList)) tokens q [] ∧
      IsItems tokens items [] ∧ (∀ source, onlyExpr? (.ofItems source items) = some e) ∧ P e := by
  obtain ⟨fn, q₁, hfn, hk₁⟩ := lexes_keyword 'f' ['n'] .fnWord (by decide) (by decide) (by decide) {}
    (stops_cons (c := ' ') (by decide) ("f() \x7b ".toList ++ (text ++ " ; \x7d".toList)))
  obtain ⟨q₂, hgap₁⟩ := lexes_space q₁
    (stops_cons (c := 'f') (by decide) ("() \x7b ".toList ++ (text ++ " ; \x7d".toList)))
  obtain ⟨name, q₃, hname, hk₂⟩ := lexes_keyword 'f' [] .name (by decide) (by decide) (by decide) q₂
    (stops_cons (c := '(') (by decide) (") \x7b ".toList ++ (text ++ " ; \x7d".toList)))
  obtain ⟨op, q₄, hop, hk₃⟩ := lexes_mark (c := '(') rfl (by decide) q₃
    (") \x7b ".toList ++ (text ++ " ; \x7d".toList))
  obtain ⟨cl, q₅, hcl, hk₄⟩ := lexes_mark (c := ')') rfl (by decide) q₄
    (" \x7b ".toList ++ (text ++ " ; \x7d".toList))
  obtain ⟨q₆, hgap₂⟩ := lexes_space q₅
    (stops_cons (c := '\x7b') (by decide) (' ' :: (text ++ " ; \x7d".toList)))
  obtain ⟨brace, q₇, hbrace, hk₅⟩ := lexes_mark (c := '\x7b') rfl (by decide) q₆
    (' ' :: (text ++ " ; \x7d".toList))
  obtain ⟨q₈, hgap₃⟩ := lexes_space_before hhead hne q₇ " ; \x7d".toList
  -- the text itself, which starts wherever the blank in front of it ends
  obtain ⟨us, q₉, e, hus, hexpr, hP⟩ := hreads q₈
  obtain ⟨q₁₀, hgap₄⟩ := lexes_space q₉ (stops_cons (c := ';') (by decide) " \x7d".toList)
  obtain ⟨semicolon, q₁₁, hsemicolon, hk₆⟩ := lexes_mark (c := ';') rfl (by decide) q₁₀ " \x7d".toList
  obtain ⟨q₁₂, hgap₅⟩ := lexes_space q₁₁ (stops_cons (c := '\x7d') (by decide) [])
  obtain ⟨brace', q₁₃, hbrace', hk₇⟩ := lexes_mark (c := '\x7d') rfl (by decide) q₁₂ []
  -- the tokens make a function with one statement
  have hfunction : IsFunction false _ _ [] := .mk .absent hk₁ (.single hk₂) hk₃ (.nil hk₄) .absent
    (.body hk₅ (.cons (.exprStmt hexpr hk₆) (.nil hk₇)))
  have hitems : IsItems _ _ [] := .cons (.function hfunction) .nil
  refine ⟨_, q₁₃, _, e, ?_, hitems, fun source => rfl, hP⟩
  have hlexes : Lexes {} ("fn f() \x7b ".toList ++ (text ++ " ; \x7d".toList)) _ q₁₃ [] :=
    hfn.append (hgap₁.append (hname.append (hop.append (hcl.append (hgap₂.append
      (hbrace.append (hgap₃.append (hus.append (hgap₄.append (hsemicolon.append
        (hgap₅.append hbrace')))))))))))
  simpa only [List.nil_append, List.append_nil, List.cons_append, List.append_assoc] using hlexes

/-- **The text of an expression** is read as that expression where a statement may stand. -/
theorem read_expr (h : Piece text ts) {e : Expr} (he : IsExpr ts e []) :
    ∃ e', exprSlot.read? (String.ofList text) = some e' ∧ e'.bare = e.bare := by
  have hreads (p : Pos) : ∃ us q e', Lexes p (text ++ " ; \x7d".toList) us q " ; \x7d".toList ∧
      IsExpr us e' [] ∧ e'.bare = e.bare := by
    obtain ⟨L, q, hlexes⟩ := h.lexes p (closes_space _)
    exact ⟨_, q, _, hlexes, he.relocate, e.bare_relocate⟩
  obtain ⟨tokens, q, items, e', hlexes, hitems, honly, hbare⟩ := onlyExpr_read h.head h.ne_nil hreads
  have hwhole : Lexes {} (exprSlot.before.toList ++ ((String.ofList text).toList
      ++ exprSlot.behind.toList)) tokens q [] := by
    rw [String.toList_ofList]
    exact hlexes
  exact ⟨e', Slot.read?_eq_some hwhole hitems honly, hbare⟩

/-- **The text of a pattern** is read as that pattern as the parameter of a closure. -/
theorem read_pattern (h : Piece text ts) {p : Pattern} (hp : IsPattern ts p) :
    ∃ p', patternSlot.read? (String.ofList text) = some p' ∧ p'.bare = p.bare := by
  have hsplit : '|' :: ' ' :: (text ++ " | f".toList) ++ " ; \x7d".toList
      = '|' :: ' ' :: (text ++ " | f ; \x7d".toList) := by
    rw [List.cons_append, List.cons_append, List.append_assoc]
    rfl
  -- the closure `| p | f`, of which the pattern is the parameter
  have hreads (start : Pos) : ∃ us q e', Lexes start
      ('|' :: ' ' :: (text ++ " | f".toList) ++ " ; \x7d".toList) us q " ; \x7d".toList ∧
        IsExpr us e' [] ∧ ∃ l q body, e' = .closure l [q] none body ∧ q.pattern.bare = p.bare := by
    rw [hsplit]
    obtain ⟨bar, q₁, hbar, hk₁⟩ := lexes_mark (c := '|') rfl (by decide) start
      (' ' :: (text ++ " | f ; \x7d".toList))
    obtain ⟨q₂, hgap₁⟩ := lexes_space_before h.head h.ne_nil q₁ " | f ; \x7d".toList
    obtain ⟨L, q₃, hpiece⟩ := h.lexes q₂ (closes_space "| f ; \x7d".toList)
    obtain ⟨q₄, hgap₂⟩ := lexes_space q₃ (stops_cons (c := '|') (by decide) " f ; \x7d".toList)
    obtain ⟨bar', q₅, hbar', hk₂⟩ := lexes_mark (c := '|') rfl (by decide) q₄ " f ; \x7d".toList
    obtain ⟨q₆, hgap₃⟩ := lexes_space q₅ (stops_cons (c := 'f') (by decide) " ; \x7d".toList)
    obtain ⟨name, q₇, hname, hk₃⟩ := lexes_keyword 'f' [] .name (by decide) (by decide) (by decide) q₆
      (stops_cons (c := ' ') (by decide) "; \x7d".toList)
    have hbody : IsExpr [name] _ [] := .unary (.chain (.atom (.path (.single hk₃))))
    have hparams : IsClosureParams ((ts.map L.token ++ []) ++ [bar']) _ [] :=
      .last (.mk hp.relocate .absent) hk₂
    -- its tokens make a closure with one parameter
    have hclosure : IsExpr _ _ [] := .closure hk₁ hparams .absent hbody
    refine ⟨_, q₇, _, ?_, hclosure, _, _, _, rfl, p.bare_relocate⟩
    have hlexes : Lexes start ('|' :: ' ' :: (text ++ " | f ; \x7d".toList)) _ q₇ " ; \x7d".toList :=
      hbar.append (hgap₁.append (hpiece.append (hgap₂.append (hbar'.append (hgap₃.append hname)))))
    simpa only [List.nil_append, List.append_nil, List.cons_append, List.append_assoc] using hlexes
  obtain ⟨tokens, q, items, e', hlexes, hitems, honly, l, param, body, rfl, hbare⟩ :=
    onlyExpr_read (stops_cons (by decide) _) (List.cons_ne_nil _ _) hreads
  have hwhole : Lexes {} (patternSlot.before.toList ++ ((String.ofList text).toList
      ++ patternSlot.behind.toList)) tokens q [] := by
    rw [hsplit] at hlexes
    rw [String.toList_ofList]
    exact hlexes
  refine ⟨param.pattern, Slot.read?_eq_some hwhole hitems fun source => ?_, hbare⟩
  unfold patternSlot
  dsimp only
  rw [honly]
  rfl

/-- **The text of a written type** is read as that type behind the arrow of a struct. -/
theorem read_type (h : Piece text ts) {t : TypeExpr} (ht : IsType ts t []) :
    ∃ t', typeSlot.read? (String.ofList text) = some t' ∧ t'.bare = t.bare := by
  obtain ⟨word, q₁, hword, hk₁⟩ := lexes_keyword 's' ['t', 'r', 'u', 'c', 't'] .structWord (by decide)
    (by decide) (by decide) {} (stops_cons (c := ' ') (by decide) ("S -> ".toList ++ (text ++ " ;".toList)))
  obtain ⟨q₂, hgap₁⟩ := lexes_space q₁
    (stops_cons (c := 'S') (by decide) (" -> ".toList ++ (text ++ " ;".toList)))
  obtain ⟨name, q₃, hname, hk₂⟩ := lexes_keyword 'S' [] .name (by decide) (by decide) (by decide) q₂
    (stops_cons (c := ' ') (by decide) ("-> ".toList ++ (text ++ " ;".toList)))
  obtain ⟨q₄, hgap₂⟩ := lexes_space q₃
    (stops_cons (c := '-') (by decide) ("> ".toList ++ (text ++ " ;".toList)))
  obtain ⟨arrow, q₅, harrow, hk₃⟩ : ∃ t q, Lexes q₄ ('-' :: '>' :: ' ' :: (text ++ " ;".toList)) [t] q
      (' ' :: (text ++ " ;".toList)) ∧ t.kind = .arrow := ⟨_, _, .token .arrow .done, rfl⟩
  obtain ⟨q₆, hgap₃⟩ := lexes_space_before h.head h.ne_nil q₅ " ;".toList
  obtain ⟨L, q₇, hpiece⟩ := h.lexes q₆ (closes_space ";".toList)
  obtain ⟨q₈, hgap₄⟩ := lexes_space q₇ (stops_cons (c := ';') (by decide) [])
  obtain ⟨semicolon, q₉, hsemicolon, hk₄⟩ := lexes_mark (c := ';') rfl (by decide) q₈ []
  -- the tokens make a struct whose deref target is the type
  have hitem : IsItem _ _ [] := .structDef hk₁ (.single hk₂) (.present hk₃ (ht.relocate (L := L))) hk₄
  have hitems : IsItems _ _ [] := .cons hitem .nil
  have hwhole : Lexes {} (typeSlot.before.toList ++ ((String.ofList text).toList
      ++ typeSlot.behind.toList)) (word :: name :: arrow :: (ts.map L.token ++ [semicolon])) q₉ [] := by
    rw [String.toList_ofList]
    exact hword.append (hgap₁.append (hname.append (hgap₂.append (harrow.append (hgap₃.append
      (hpiece.append (hgap₄.append hsemicolon)))))))
  rw [List.append_nil] at hitems
  exact ⟨_, Slot.read?_eq_some hwhole hitems fun source => rfl, t.bare_relocate⟩

/-- The extent of a node cuts out a piece of the text that is a way to write it. -/
theorem TreeNode.In.piece {source : String} {p : Program} (h : parse source = .ok p) {n : TreeNode}
    (hn : n.In p) : ∃ text ts, (Span.ofLoc n.loc).textIn (some source) = some (String.ofList text) ∧
      Piece text ts ∧ n.Formed ts := by
  obtain ⟨core, hcore, hcovers⟩ := hn.covered h
  obtain ⟨q, hlexes⟩ := lexes_of_lex (parse_sound h).1
  exact ⟨_, core, Span.textIn_between hcovers.loc source, hlexes.piece hcore hcovers.formed.ne_nil,
    hcovers.formed⟩

/-- **The text of an extent is a way to write what has it.** In a text that can be read, what stands
between the offsets of an expression is read as that expression where an expression may stand, and so
it is with patterns and with written types; only places differ. -/
theorem text_of_extent {source : String} {p : Program} (h : parse source = .ok p) :
    (∀ e : Expr, (TreeNode.expr e).In p → ∃ text e', (Span.ofLoc e.loc).textIn (some source) = some text ∧
      exprSlot.read? text = some e' ∧ e'.bare = e.bare) ∧
    (∀ t : TypeExpr, (TreeNode.type t).In p → ∃ text t',
      (Span.ofLoc t.loc).textIn (some source) = some text ∧
        typeSlot.read? text = some t' ∧ t'.bare = t.bare) ∧
    ∀ q : Pattern, (TreeNode.pattern q).In p → ∃ text q',
      (Span.ofLoc q.loc).textIn (some source) = some text ∧
        patternSlot.read? text = some q' ∧ q'.bare = q.bare := by
  refine ⟨fun e he => ?_, fun t ht => ?_, fun q hq => ?_⟩
  -- a node of the program has a run of tokens, which is a way to write it
  · obtain ⟨text, ts, htext, hpiece, hformed⟩ := he.piece h
    obtain ⟨e', hread, hbare⟩ := read_expr hpiece hformed
    exact ⟨_, e', htext, hread, hbare⟩
  · obtain ⟨text, ts, htext, hpiece, hformed⟩ := ht.piece h
    obtain ⟨t', hread, hbare⟩ := read_type hpiece hformed
    exact ⟨_, t', htext, hread, hbare⟩
  · obtain ⟨text, ts, htext, hpiece, hformed⟩ := hq.piece h
    obtain ⟨q', hread, hbare⟩ := read_pattern hpiece hformed
    exact ⟨_, q', htext, hread, hbare⟩

/-- A closure with parentheses around all its parts. -/
def parenthesizedParts : String :=
  "fn f() \x7b\n  (|(&(b), _): ((u8),)| // c\n    ((b)));\n\x7d\n"

/-- The texts of the closure, of its pattern and of the type of that, each read on its own. -/
theorem text_of_extent_parenthesized : ∃ p e t q, parse parenthesizedParts = .ok p ∧
    (TreeNode.expr e).In p ∧ (TreeNode.type t).In p ∧ (TreeNode.pattern q).In p ∧
    (∃ e', exprSlot.read? "|(&(b), _): ((u8),)| // c\n    ((b))" = some e' ∧ e'.bare = e.bare) ∧
    (∃ t', typeSlot.read? "((u8),)" = some t' ∧ t'.bare = t.bare) ∧
    ∃ q', patternSlot.read? "(&(b), _)" = some q' ∧ q'.bare = q.bare := by
  have hfound : (parse parenthesizedParts).toOption.any (fun p => (onlyExpr? p).any fun e =>
      (onlyParam? e).any fun q => q.declared.any fun t =>
        (Span.ofLoc e.loc).textIn (some parenthesizedParts) == some "|(&(b), _): ((u8),)| // c\n    ((b))"
          && (Span.ofLoc t.loc).textIn (some parenthesizedParts) == some "((u8),)"
          && (Span.ofLoc q.pattern.loc).textIn (some parenthesizedParts) == some "(&(b), _)") = true := by
    decide +kernel
  obtain ⟨p, hp, hfound⟩ := (Option.any_eq_true _ _).mp hfound
  obtain ⟨e, he, hfound⟩ := (Option.any_eq_true _ _).mp hfound
  obtain ⟨q, hq, hfound⟩ := (Option.any_eq_true _ _).mp hfound
  obtain ⟨t, ht, hfound⟩ := (Option.any_eq_true _ _).mp hfound
  simp only [Bool.and_eq_true, beq_iff_eq] at hfound
  obtain ⟨⟨htext, htype⟩, hpattern⟩ := hfound
  have hparse := toOption_eq_some.mp hp
  -- the three nodes lie in the program, one inside of the other
  have hin := onlyExpr?_in he
  have hparam := TreeNode.In.child hin (onlyParam?_child hq)
  have hqin : (TreeNode.pattern q.pattern).In p := hparam.child List.mem_cons_self
  have htin : (TreeNode.type t).In p := hparam.child (by simp [TreeNode.children, ht])
  obtain ⟨hexprs, htypes, hpatterns⟩ := text_of_extent hparse
  obtain ⟨text, e', htext', hread, hbare⟩ := hexprs _ hin
  obtain ⟨text₂, t', htype', hread₂, hbare₂⟩ := htypes t htin
  obtain ⟨text₃, q', hpattern', hread₃, hbare₃⟩ := hpatterns q.pattern hqin
  obtain rfl := Option.some.inj (htext'.symm.trans htext)
  obtain rfl := Option.some.inj (htype'.symm.trans htype)
  obtain rfl := Option.some.inj (hpattern'.symm.trans hpattern)
  exact ⟨p, e, t, q.pattern, hparse, hin, htin, hqin, ⟨e', hread, hbare⟩, ⟨t', hread₂, hbare₂⟩, q',
    hread₃, hbare₃⟩

end Syntax

end ClosureLint
