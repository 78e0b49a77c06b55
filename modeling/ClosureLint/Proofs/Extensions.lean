import ClosureLint.Proofs.Checking.Extended
import ClosureLint.Proofs.Grammar.Paths
import ClosureLint.Proofs.Reformatting

/-!
# Unrelated declarations change nothing

A program may declare a further struct, trait or function, under a name that it does not use. Whatever
it asks for is found as before, so it is checked to the same results and given the same findings. Only
the numbers of declarations may differ, and lints do not look at these.

* `Eta.findingsIn_same` — the findings do not depend on the numbers of declarations.
* `check_spans`, `check_text` — expressions lie inside of the text, and have the same texts when it goes
  on.
* `check_further` — a program that is extended is checked to the same, up to the numbers.
* `extension_changes_nothing` — so is every program that a text is read as, and it is linted to the same.
-/

namespace ClosureLint

open ClosureLint.Core
open ClosureLint.Syntax (ExtendedBy Path Program)
open ClosureLint.Typing

variable {q q' : Query} {config : Config} {file : Option String} {source : String} {p p' : Program}
  {path : Path} {checked : Checked}

/-! ### Answers up to the numbers of declarations -/

/-- What is filed under a node in two tables that go side by side. -/
theorem rel_lookup {α β : Type} {W : α → β → Prop} {l : Table α} {l' : Table β}
    (h : List.Forall₂ (Filed W) l l') (n : NodeId) : Option.Rel W (l.lookup n) (l'.lookup n) := by
  -- side by side, the same nodes are looked at
  induction h with
  | nil => exact .none
  | @cons a b _ _ hab _ ih =>
    obtain ⟨m, x⟩ := a
    obtain ⟨m', y⟩ := b
    obtain ⟨rfl, hxy⟩ : m' = m ∧ W x y := hab
    rw [List.lookup_cons, List.lookup_cons]
    split
    · exact .some hxy
    · exact ih

namespace Query

variable (h : q.tables.Accords Decl.Same q'.tables)
include h

theorem typeOf_same (e : Expr) : q'.typeOf e = q.typeOf e := by
  rw [Query.typeOf, h.types, Query.typeOf]

theorem isAdjusted_same : q'.isAdjusted = q.isAdjusted := by
  funext e
  rw [Query.isAdjusted, h.adjusted, Query.isAdjusted]

theorem method?_same (e : Expr) : Option.Rel Decl.Same (q.method? e) (q'.method? e) := by
  have hmethod := rel_lookup h.methods e.id
  unfold Query.method?
  generalize q.tables.methods.lookup e.id = r, q'.tables.methods.lookup e.id = r' at hmethod ⊢
  cases hmethod with
  | none => exact .none
  | some hr => exact .some hr.decl

theorem signature?_same (e : Expr) : q'.signature? e = q.signature? e := by
  have hmethod := method?_same h e
  unfold Query.signature?
  generalize q.method? e = d, q'.method? e = d' at hmethod ⊢
  cases hmethod with
  | none => rfl
  | some hd =>
    dsimp only
    rw [hd.selfType?, Decl.isUnsafe, hd.type, Decl.isUnsafe]

end Query

namespace Eta

variable {params : List Param} {call callee receiver e : Expr} {method : String} {args : List Expr}
  (h : q.tables.Accords Decl.Same q'.tables)
include h

theorem checkCall_same (htext : q'.text? callee = q.text? callee) :
    checkCall q' params call callee args = checkCall q params call callee args := by
  rw [checkCall, Query.isAdjusted_same h, Query.typeOf_same h, htext, checkCall]

theorem checkMethodCall_same :
    checkMethodCall q' params call receiver method args
      = checkMethodCall q params call receiver method args := by
  -- the owner is found by all but the number of the declaration
  have howner {d d' : Decl} (hd : d.Same d') :
      methodOwner? q' d' call receiver = methodOwner? q d call receiver := by
    have hinherent : d'.isInherent = d.isInherent := by rw [Decl.isInherent, hd.origin, Decl.isInherent]
    unfold methodOwner?
    rw [Query.signature?_same h, Query.typeOf_same h, hd.traitPath?, hinherent]
  have hmethod := Query.method?_same h call
  unfold checkMethodCall
  rw [Query.isAdjusted_same h]
  generalize q.method? call = d, q'.method? call = d' at hmethod ⊢
  cases hmethod with
  | none => rfl
  | some hd =>
    dsimp only
    rw [hd.type, howner hd]

theorem checkClosure_same (htext : ∀ y ∈ e.walk, q'.text? y = q.text? y) :
    checkClosure q' e = checkClosure q e := by
  cases e with
  | closure _ _ _ body =>
    cases body with
    | call _ callee _ =>
      -- the text of the callee stands in for the closure
      exact congrArg Except.ok (checkCall_same h (htext callee (List.mem_cons_of_mem _
        (List.mem_cons_of_mem _ (List.mem_append_left _ callee.mem_walk_self)))))
    | methodCall => exact checkMethodCall_same h
    | path | int | str | borrow | deref | field | closure => rfl
  | path | int | str | borrow | deref | field | call | methodCall => rfl

theorem checkPlace_same (htext : ∀ y ∈ e.walk, q'.text? y = q.text? y) :
    checkPlace config q' e = checkPlace config q e := by
  unfold checkPlace
  split
  · rfl
  · refine congrArg (· >>= _) (mapM_congr fun a ha => ?_)
    have hwalk := Expr.walk_of_inside (Syntax.inside_of_candidate ha)
    rw [checkClosure_same h fun y hy => htext y (Expr.walk_trans hwalk hy)]

/-- **The findings** do not depend on the numbers of declarations. -/
theorem findingsIn_same (configs : List Config) {fs : List Function}
    (htext : ∀ f ∈ fs, ∀ y ∈ f.walk, q'.text? y = q.text? y) :
    findingsIn configs q' fs = findingsIn configs q fs := by
  have hplace (e : Expr) (he : e ∈ fs.flatMap Function.walk) (config : Config) :
      checkPlace config q' e = checkPlace config q e := by
    obtain ⟨f, hf, he⟩ := List.mem_flatMap.mp he
    exact checkPlace_same h fun y hy => htext f hf y (f.walk_trans he hy)
  unfold findingsIn
  dsimp only
  rw [mapM_congr fun e he => mapM_congr fun config _ => hplace e he config]

end Eta

/-! ### The text of a program -/

/-- **Expressions lie inside of the text** that they were read from. -/
theorem check_spans (hparse : Syntax.parse source = .ok p) (hcheck : check file p = .ok checked) :
    ∀ f ∈ checked.functions, ∀ e ∈ f.walk, ∃ a b : Pos, e.span.toLoc = .between a b ∧
      a.offset ≤ source.toList.length ∧ b.offset ≤ source.toList.length := by
  have hstuck := (Syntax.parse_sound hparse).1
  obtain ⟨q, hlexes⟩ := lexes_of_lex hstuck
  -- laid out over its own tokens, the program is the one that it was
  have hagain := Syntax.parse_relocate hparse hstuck
    (Syntax.Layout.map_token_onto hlexes.starts_nodup hlexes.stops_nodup rfl)
  generalize hg : (Syntax.Layout.onto (lex source).tokens (lex source).tokens).loc = g at hagain
  have hrelocated : check file (p.relocate g source) = .ok (checked.relocate g source) :=
    check_relocate hcheck source
  rw [← Except.ok.inj (hparse.symm.trans hagain), hcheck] at hrelocated
  have hfunctions := congrArg Checked.functions (Except.ok.inj hrelocated)
  -- a place is that of a token, or else that of no token
  have htoken (i : Nat) : ((lex source).tokens.getD i default).start.offset ≤ source.toList.length ∧
      ((lex source).tokens.getD i default).stop.offset ≤ source.toList.length := by
    rw [List.getD_eq_getElem?_getD]
    cases hi : (lex source).tokens[i]? with
    | none => exact ⟨Nat.zero_le _, Nat.zero_le _⟩
    | some t =>
      have ht := List.mem_of_getElem? hi
      have hstop : t.stop.offset ≤ 0 + source.toList.length := hlexes.stop_le t ht
      have hstart := (hlexes.apart.2 t ht).2
      rw [Option.getD_some]
      omega
  intro f hf e he
  rw [hfunctions] at hf
  obtain ⟨f', -, rfl⟩ := List.mem_map.mp hf
  rw [Function.walk_relocate] at he
  obtain ⟨e', -, rfl⟩ := List.mem_map.mp he
  rw [Expr.span_relocate, ← hg]
  exact ⟨_, _, rfl, (htoken _).1, (htoken _).2⟩

/-- A text with functions is not empty. -/
theorem source_ne_empty (hparse : Syntax.parse source = .ok p) (hcheck : check file p = .ok checked)
    {f : Function} (hf : f ∈ checked.functions) : source.isEmpty = false := by
  refine isEmpty_of_tokens fun htokens => ?_
  obtain ⟨checked', hcheck', hfunctions, -⟩ := check_empty file source
  have hnone := parse_of_no_tokens (Syntax.parse_sound hparse).1 htokens
  obtain rfl := Except.ok.inj (hparse.symm.trans hnone)
  obtain rfl := Except.ok.inj (hcheck.symm.trans hcheck')
  exact absurd (hfunctions ▸ hf) List.not_mem_nil

/-- **Expressions have the same texts** when the text of the program goes on. -/
theorem check_text (hparse : Syntax.parse source = .ok p) (hcheck : check file p = .ok checked)
    {checked' : Checked} {rest : String} (hsource : p'.source = p.source ++ rest)
    (hcheck' : check file p' = .ok checked') :
    ∀ f ∈ checked.functions, ∀ e ∈ f.walk, checked'.query.text? e = checked.query.text? e := by
  intro f hf e he
  have hp : p.source = source := by
    obtain ⟨-, items, -, rfl⟩ := Syntax.parse_sound hparse
    rfl
  have hfilled := source_ne_empty hparse hcheck hf
  have hlonger : (source ++ rest).isEmpty = false := by
    refine Bool.eq_false_iff.mpr fun hempty => Bool.eq_false_iff.mp hfilled ?_
    exact String.isEmpty_iff.mpr (String.append_eq_empty_iff.mp (String.isEmpty_iff.mp hempty)).1
  -- the text is kept where it is not empty
  have hkept : checked.source = some source := by
    rw [check_source hcheck, hp, hfilled]
    rfl
  have hkept' : checked'.source = some (source ++ rest) := by
    rw [check_source hcheck', hsource, hp, hlonger]
    rfl
  obtain ⟨a, b, hloc, ha, hb⟩ := check_spans hparse hcheck f hf e he
  change e.span.textIn checked'.source = e.span.textIn checked.source
  rw [hkept, hkept']
  exact Span.textIn_append hloc ha hb rest

/-! ### Extended programs -/

/-- A program that declares one thing more goes on as the program does. -/
theorem goesOn_extended {d d' : Declared} (h : ExtendedBy path p p')
    (hp : ∀ q ∈ p.paths, ApartFrom path q)
    (hd : Restated (fun l => l) (Registry.Wider path.text) (BodiesIn (ApartFrom path)) d d') :
    GoesOn (fun l => l) (ApartFrom path) Decl.Same file (structNames p) (structNames p') d d' where
  contexts selfType :=
    { fronts := fun _ hq hlength => hq.front hlength
      scope := ⟨fun _ hq => (structNames_extended h hp).find? hq, rfl, rfl⟩
      targets := hd.targets
      registry := hd.registry.accords }
  written := hd.bodies.2
  lowered := by
    rw [hd.bodies.1, List.map_congr_left fun f _ => Function.relocate_id f, List.map_id']
  signatures := by rw [hd.bodies.1]
  diagnostics := hd.diagnostics

/-- **An extended program** is checked to the same, up to the numbers of declarations. -/
theorem check_further (h : ExtendedBy path p p') (hpath : path.Segmented)
    (hp : ∀ q ∈ p.paths, q.Segmented ∧ path.last ∉ q) (hcheck : check file p = .ok checked) :
    ∃ checked', check file p' = .ok checked' ∧ checked'.functions = checked.functions ∧
      checked'.diagnostics = checked.diagnostics ∧
      checked.tables.Accords Decl.Same checked'.tables := by
  -- the new path's last segment is what lookups would find it by
  have hapart (q : Path) (hq : q ∈ p.paths) : ApartFrom path q :=
    ⟨(hp q hq).1, by rw [lastSegment_text hpath]; exact (hp q hq).2⟩
  obtain ⟨declared, -, hd, -, -⟩ := check_eq_ok hcheck
  have hstart : Restated (fun l => l) (Lacks path.text) (BodiesIn (ApartFrom path)) {} {} :=
    ⟨lacks_start, rfl, rfl, rfl, List.forall_mem_nil _⟩
  obtain ⟨declared', hd', hrestated⟩ := (declare_extended h hapart).runs hd hstart
  obtain ⟨tables, htables, -, hcheck'⟩ :=
    check_restated hcheck hd hd' (goesOn_extended h hapart hrestated)
  refine ⟨_, hcheck', ?_, ?_, htables⟩
  · dsimp only
    rw [List.map_congr_left fun f _ => Function.relocate_id f, List.map_id']
  · dsimp only
    rw [List.map_congr_left fun d _ => Diagnostic.relocate_id d, List.map_id']

/-- **Adding unrelated declarations changes nothing.** A program that was read is extended by a struct
without a target, by a trait, or by a function, all over built-in types and without bodies, and the last
segment of the path that is declared is none of the segments of the program's paths. Then both programs
can be checked, with the same trees and the same diagnostics. All types and all adjustments are the same,
methods and paths mean the same declarations up to their numbers, and the findings are the same. -/
theorem extension_changes_nothing (hparse : Syntax.parse source = .ok p) (h : ExtendedBy path p p')
    (hpath : path.Segmented) (hnew : ∀ q ∈ p.paths, path.last ∉ q) (file : Option String) :
    ∃ checked checked', check file p = .ok checked ∧ check file p' = .ok checked' ∧
      checked'.functions = checked.functions ∧ checked'.diagnostics = checked.diagnostics ∧
      checked.tables.Accords Decl.Same checked'.tables ∧
      ∀ config, lintChecked config checked' = lintChecked config checked ∧
        lintProgram config file p' = lintProgram config file p := by
  obtain ⟨checked, hcheck⟩ := check_succeeds hparse file
  have hp (q : Path) (hq : q ∈ p.paths) : q.Segmented ∧ path.last ∉ q :=
    ⟨Syntax.parse_segmented hparse q hq, hnew q hq⟩
  obtain ⟨checked', hcheck', hfunctions, hdiagnostics, htables⟩ := check_further h hpath hp hcheck
  refine ⟨checked, checked', hcheck, hcheck', hfunctions, hdiagnostics, htables, fun config => ?_⟩
  -- the text of what is added stands behind the program's
  obtain ⟨rest, hsource⟩ := h.source
  have hlint : lintChecked config checked' = lintChecked config checked := by
    unfold lintChecked runLints
    rw [hfunctions, Eta.findingsIn_same htables [config]
      (check_text hparse hcheck hsource hcheck')]
  refine ⟨hlint, ?_⟩
  unfold lintProgram
  rw [hcheck, hcheck']
  change (if hasErrors checked'.diagnostics then _ else _) = if hasErrors checked.diagnostics then _ else _
  rw [hdiagnostics, hlint]

/-- A program with a redundant closure, which calls the method of a trait. -/
def traitCall : String :=
  "trait T \x7b fn m(&self); \x7d\nstruct S;\nimpl T for S \x7b fn m(&self); \x7d\n"
    ++ "fn apply(f: fn(&S));\nfn main() \x7b apply(|x| x.m()); \x7d\n"

/-- The text of a further trait, with a method of the same name. -/
def furtherText : String := "trait further::U \x7b fn m(&self, n: i32); \x7d\n"

/-- The further trait. -/
def furtherTrait : Syntax.TraitDef where
  loc := {}
  path := ["further", "U"]
  methods := [{
    loc := {}
    path := ["m"]
    isUnsafe := false
    receiver := some ⟨{}, .ref⟩
    params := [⟨{}, "n", .named {} ["i32"] []⟩]
    ret := none
    body := none }]

theorem furtherTrait_primitive : ∀ f ∈ furtherTrait.methods, f.Primitive := by
  refine List.forall_mem_singleton.mpr ⟨rfl, List.forall_mem_singleton.mpr rfl, ?_⟩
  intro r hr form
  obtain rfl := Option.some.inj hr
  exact nofun

/-- **The closure is still reported** when the further trait is declared in front of the other. -/
theorem furtherTrait_changes_nothing : ∃ p ds, Syntax.parse traitCall = .ok p ∧
    lintProgram .standard none p = .ok ds ∧ ds ≠ [] ∧
    lintProgram .standard none
      { p with traits := furtherTrait :: p.traits, source := p.source ++ furtherText } = .ok ds := by
  have hread : (Syntax.parse traitCall).toOption.any (fun p =>
      (p.paths.all fun q => !q.contains furtherTrait.path.last) &&
        (lintProgram .standard none p).toOption.any fun ds => !ds.isEmpty) = true := by
    decide +kernel
  obtain ⟨p, hp, hread⟩ := (Option.any_eq_true _ _).mp hread
  obtain ⟨hpaths, hlinted⟩ := Bool.and_eq_true_iff.mp hread
  obtain ⟨ds, hds, hfound⟩ := (Option.any_eq_true _ _).mp hlinted
  have hparse := toOption_eq_some.mp hp
  have hlinted := toOption_eq_some.mp hds
  -- no path that the program writes mentions the name of the further trait
  have hnew : ∀ q ∈ p.paths, furtherTrait.path.last ∉ q := fun q hq hmem => by
    have hnone := List.all_eq_true.mp hpaths q hq
    rw [List.contains_iff_mem.mpr hmem] at hnone
    exact absurd hnone Bool.false_ne_true
  obtain ⟨_, _, _, _, _, _, _, hlints⟩ := extension_changes_nothing hparse
    (.traitDef p furtherText [] p.traits furtherTrait rfl furtherTrait_primitive (by decide))
    ⟨by decide, by decide⟩ hnew none
  refine ⟨p, ds, hparse, hlinted, ?_, (hlints .standard).2.trans hlinted⟩
  rintro rfl
  exact absurd hfound Bool.false_ne_true

end ClosureLint
