import ClosureLint.Proofs.Checking.Around
import ClosureLint.Proofs.Core.AlikeWalks
import ClosureLint.Proofs.EtaLaw
import ClosureLint.Proofs.Reporting

/-!
# Findings around an argument that is replaced

Whether a closure is redundant is read off the closure, and not off what else is in the program. So
when an argument makes way for a path, the findings for all others stay as they are.

* `AnswersAlike` — two queries give the same answers for paired nodes.
* `checkCall_looks`, `checkMethodCall_looks` — what is found out about a call does not depend on what
  is inside of its parts.
* `Spared` — no closure around the argument binds the name that the path spells.
* `checkClosure_kin` — what is found out about a closure and about its counterpart.
* `findings_aside` — the findings at all places, with the argument and with the path.
-/

namespace ClosureLint.Eta

open ClosureLint.Core
open ClosureLint.Syntax (Path TypeExpr)
open ClosureLint.Typing

variable {P : NodeId → NodeId → Prop} {q q' : Query} {config : Config} {x r e e' place : Expr}
  {params params' : List Param} {segments : Path} {f : Finding}

/-- The second query says of a node what the first says of the one that it is paired with. -/
structure AnswersAlike (P : NodeId → NodeId → Prop) (q q' : Query) : Prop where
  tables : q.tables.Paired P q'.tables
  source : q'.source = q.source

namespace AnswersAlike

variable (hq : AnswersAlike P q q') (h : Pairs P e.node e'.node)
include hq h

/-- Paired expressions have the same type. -/
theorem typeOf : q'.typeOf e' = q.typeOf e :=
  congrArg (Option.getD · Ty.unknown) (hq.tables.types _ _ h.id)

/-- Both are adjusted or neither is. -/
theorem isAdjusted : q'.isAdjusted e' = q.isAdjusted e := by
  rw [Bool.eq_iff_iff]
  unfold Query.isAdjusted
  rw [List.contains_iff_mem, List.contains_iff_mem]
  exact hq.tables.adjusted _ _ h.id

/-- Paired method calls call the same method. -/
theorem method? : q'.method? e' = q.method? e :=
  congrArg (Option.map Resolution.decl) (hq.tables.methods _ _ h.id)

/-- Paired paths denote the same declaration. -/
theorem path? : q'.path? e' = q.path? e := hq.tables.paths _ _ h.id

/-- Types of paired expressions have the same text. -/
theorem text? : q'.text? e' = q.text? e := by
  unfold Query.text?
  rw [hq.source, show e'.span = e.span from h.span]

/-- They have the same parameters and result. -/
theorem signature? : q'.signature? e' = q.signature? e := by
  unfold Query.signature?
  rw [hq.method? h]

end AnswersAlike

/-! ### Parameters handed on -/

/-- What it takes for a parameter to be handed on. -/
theorem forwardsOne_iff {p : Param} : forwardsOne p e = true ↔
    ∃ n isMut name n', p.pattern = .binding n isMut name ∧ e = .path n' [name] := by
  constructor
  · intro h
    unfold forwardsOne at h
    split at h
    · next hp =>
      obtain rfl := eq_of_beq h
      exact ⟨_, _, _, _, hp, rfl⟩
    · exact absurd h Bool.false_ne_true
  · rintro ⟨n, isMut, name, n', hp, rfl⟩
    unfold forwardsOne
    rw [hp]
    exact beq_self_eq_true name

/-- An expression that is no path is not a parameter handed on. -/
theorem forwardsOne_eq_false {p : Param} (h : ∀ n segments, e ≠ .path n segments) :
    forwardsOne p e = false := by
  refine Bool.eq_false_iff.mpr fun hone => ?_
  obtain ⟨_, _, name, n, -, he⟩ := forwardsOne_iff.mp hone
  exact h _ _ he

/-- A path is not a parameter handed on that spells none of the names. -/
theorem forwardsOne_path {n : Node} (h : ∀ name ∈ paramNames params, segments ≠ [name]) :
    ∀ p ∈ params, forwardsOne p (.path n segments) = false := by
  refine fun p hp => Bool.eq_false_iff.mpr fun hone => ?_
  obtain ⟨_, _, name, _, hpattern, he⟩ := forwardsOne_iff.mp hone
  have hmem : name ∈ paramNames params :=
    List.mem_flatMap.mpr ⟨p, hp, by rw [hpattern]; exact List.mem_singleton_self name⟩
  exact h name hmem (Expr.path.inj he).2

/-- A pattern that is a binding up to identities is one. -/
private theorem binding_of_unnumbered {p p' : Pattern} (h : p'.unnumbered = p.unnumbered)
    {n : Node} {isMut : Bool} {name : String} (hp : p = .binding n isMut name) :
    ∃ n', p' = .binding n' isMut name := by
  subst hp
  cases p' with
  | binding n' isMut' name' =>
    obtain ⟨-, rfl, rfl⟩ := Pattern.binding.inj h
    exact ⟨n', rfl⟩
  | tuple | ref | wildcard => exact Pattern.noConfusion h

/-- Whether a parameter is handed on does not depend on identities. -/
private theorem forwardsOne_param {p p' : Param} (h : p'.unnumbered = p.unnumbered) (e : Expr) :
    forwardsOne p' e = forwardsOne p e := by
  have hpattern : p'.pattern.unnumbered = p.pattern.unnumbered := congrArg Param.pattern h
  rw [Bool.eq_iff_iff, forwardsOne_iff, forwardsOne_iff]
  constructor
  · rintro ⟨n, isMut, name, n', hp, he⟩
    obtain ⟨m, hp⟩ := binding_of_unnumbered hpattern.symm hp
    exact ⟨m, isMut, name, n', hp, he⟩
  · rintro ⟨n, isMut, name, n', hp, he⟩
    obtain ⟨m, hp⟩ := binding_of_unnumbered hpattern hp
    exact ⟨m, isMut, name, n', hp, he⟩

/-- An expression with the argument further inside is no parameter handed on. -/
private theorem forwardsOne_fixed {p : Param} (h : Fixed P x r e e') :
    forwardsOne p e = false ∧ forwardsOne p e' = false := by
  cases h <;> exact ⟨forwardsOne_eq_false fun _ _ => Expr.noConfusion,
    forwardsOne_eq_false fun _ _ => Expr.noConfusion⟩

/-- Whether a parameter is handed on is the same for an expression and its counterpart. -/
private theorem forwardsOne_kin {p : Param} (h : Kin P x r e e') :
    forwardsOne p e' = forwardsOne p e := by
  rcases h with h | h
  · cases h with
    | path =>
      rw [Bool.eq_iff_iff]
      simp [forwardsOne_iff]
    | int | str | borrow | deref | field | call | methodCall | closure =>
      rw [forwardsOne_eq_false fun _ _ => Expr.noConfusion,
        forwardsOne_eq_false fun _ _ => Expr.noConfusion]
  · rw [(forwardsOne_fixed h).1, (forwardsOne_fixed h).2]

/-- Parameters that agree up to identities are equally many. -/
theorem length_of_unnumbered (h : params'.map Param.unnumbered = params.map Param.unnumbered) :
    params'.length = params.length := by
  simpa using congrArg List.length h

/-- What a lint sees of an expression without a look inside: its node, and whether it is a parameter
handed on. -/
structure Looks (P : NodeId → NodeId → Prop) (e e' : Expr) : Prop where
  node : Pairs P e.node e'.node
  handedOn : ∀ p, forwardsOne p e' = forwardsOne p e

/-- Counterparts look the same. -/
theorem looks_of_kin {es es' : List Expr} (h : List.Forall₂ (Kin P x r) es es') :
    List.Forall₂ (Looks P) es es' :=
  h.imp fun _ _ h => ⟨h.node, fun _ => forwardsOne_kin h⟩

/-- The same expressions are handed on for the parameters. -/
def BindSame (params params' : List Param) : Prop :=
  List.Forall₂ (fun p p' => ∀ e, forwardsOne p' e = forwardsOne p e) params params'

/-- Parameters that agree up to identities bind the same. -/
theorem bindSame_of_unnumbered (h : params'.map Param.unnumbered = params.map Param.unnumbered) :
    BindSame params params' := by
  induction params generalizing params' with
  | nil =>
    obtain rfl := List.map_eq_nil_iff.mp h
    exact .nil
  | cons p ps ih =>
    obtain ⟨p', ps', rfl, hone, hrest⟩ := List.map_eq_cons_iff.mp h
    exact .cons (forwardsOne_param hone) (ih hrest)

/-- Arguments that look the same are handed on, or are not. -/
private theorem forwards_looks {args args' : List Expr} (hp : BindSame params params')
    (h : List.Forall₂ (Looks P) args args') : forwards params' args' = forwards params args := by
  induction h generalizing params params' with
  | nil => simp only [forwards, List.zip_nil_right, List.all_nil]
  | cons h _ ih =>
    cases hp with
    | nil => rfl
    | cons hone hrest =>
      unfold forwards at ih ⊢
      simp only [List.zip_cons_cons, List.all_cons]
      rw [ih hrest, hone, h.handedOn]

/-- Where an argument is no parameter handed on, and neither is what comes in its place. -/
private theorem forwards_hole {args args' : List Expr}
    (hp : params'.map Param.unnumbered = params.map Param.unnumbered)
    (h : FixedAll P x r args args') (hlength : args.length = params.length)
    (hx : ∀ p ∈ params, forwardsOne p x = false) (hr : ∀ p ∈ params, forwardsOne p r = false) :
    forwards params args = false ∧ forwards params' args' = false := by
  -- by induction on the arguments, along which the parameters go
  induction args generalizing args' params params' with
  | nil => cases h
  | cons e es ih =>
    obtain ⟨p, ps, rfl⟩ := List.exists_cons_of_length_eq_add_one hlength.symm
    obtain ⟨p', ps', rfl, hone, hrest⟩ := List.map_eq_cons_iff.mp hp
    unfold forwards at ih ⊢
    -- one pair that is not handed on is enough: it is the argument, or what holds it
    cases h with
    | here h =>
      simp only [List.zip_cons_cons, List.all_cons, forwardsOne_param hone,
        hx p List.mem_cons_self, hr p List.mem_cons_self, Bool.false_and, and_self]
    | head h =>
      obtain ⟨he, he'⟩ := forwardsOne_fixed (p := p) h
      simp only [List.zip_cons_cons, List.all_cons, forwardsOne_param hone, he, he',
        Bool.false_and, and_self]
    | tail _ h =>
      obtain ⟨h₁, h₂⟩ := ih hrest h (Nat.succ.inj hlength)
        (fun p hp => hx p (List.mem_cons_of_mem _ hp)) fun p hp => hr p (List.mem_cons_of_mem _ hp)
      simp only [List.zip_cons_cons, List.all_cons, h₁, h₂, Bool.and_false, and_self]

/-! ### Closures and their counterparts -/

section

variable {call call' callee callee' receiver receiver' : Expr} {method : String}
  {args args' : List Expr}

/-- Some argument is adjusted on both sides or on neither. -/
private theorem any_isAdjusted (hq : AnswersAlike P q q') (h : List.Forall₂ (Looks P) args args') :
    args'.any q'.isAdjusted = args.any q.isAdjusted := by
  induction h with
  | nil => rfl
  | cons h _ ih => rw [List.any_cons, List.any_cons, hq.isAdjusted h.node, ih]

/-- A call is looked at, and not what is inside of its parts. -/
theorem checkCall_looks (hq : AnswersAlike P q q') (hcall : Pairs P call.node call'.node)
    (hcallee : Pairs P callee.node callee'.node) (hp : BindSame params params')
    (hargs : List.Forall₂ (Looks P) args args') :
    checkCall q' params' call' callee' args' = checkCall q params call callee args := by
  unfold checkCall
  rw [hp.length_eq, hargs.length_eq, hq.isAdjusted hcall, any_isAdjusted hq hargs,
    hq.typeOf hcallee, forwards_looks hp hargs, hq.text? hcallee]

/-- Nor does what is found out about a method call. -/
theorem checkMethodCall_looks (hq : AnswersAlike P q q') (hcall : Pairs P call.node call'.node)
    (hreceiver : Looks P receiver receiver') (hp : BindSame params params')
    (hargs : List.Forall₂ (Looks P) args args') :
    checkMethodCall q' params' call' receiver' method args'
      = checkMethodCall q params call receiver method args := by
  have howner (d : Decl) : methodOwner? q' d call' receiver' = methodOwner? q d call receiver := by
    unfold methodOwner?
    rw [hq.signature? hcall, hq.typeOf hreceiver.node]
  unfold checkMethodCall
  simp only [List.length_cons, hp.length_eq, hargs.length_eq, hq.isAdjusted hcall,
    any_isAdjusted hq hargs, hq.method? hcall, forwards_looks hp (.cons hreceiver hargs), howner]

/-- Arguments that are not the parameters are no reason for a finding. -/
private theorem checkCall_eq_none
    (h : args.length = params.length → forwards params args = false) :
    checkCall q params call callee args = none := by
  unfold checkCall
  split
  · rfl
  · next hlength =>
    rw [h (Decidable.not_not.mp hlength)]
    simp

/-- Where not all parameters are handed on, nothing is found out. -/
private theorem checkMethodCall_eq_none
    (h : (receiver :: args).length = params.length → forwards params (receiver :: args) = false) :
    checkMethodCall q params call receiver method args = .ok none := by
  unfold checkMethodCall
  -- every way to a finding asks first whether the parameters are handed on
  split
  · rfl
  · next hlength =>
    rw [h (Decidable.not_not.mp hlength)]
    split
    · rfl
    · split
      · rfl
      · split <;> rfl

end

/-- No closure among `es` that holds the argument binds the name that the path spells. -/
def Spared (P : NodeId → NodeId → Prop) (x r : Expr) (segments : Path) (es : List Expr) : Prop :=
  ∀ node params ret body body', Expr.closure node params ret body ∈ es → Fixed P x r body body' →
    ∀ name ∈ paramNames params, segments ≠ [name]

section

variable {n : Node} {es es' : List Expr}

/-- What is found out about closures that are alike is the same. -/
private theorem checkClosure_alike (hq : AnswersAlike P q q') (h : Alike P e e') :
    checkClosure q' e' = checkClosure q e := by
  cases h with
  | closure _ hp hbody =>
    -- only a call or a method call in the body can be found redundant
    cases hbody with
    | @call _ _ callee _ _ _ h hcallee hargs =>
      exact congrArg Except.ok (checkCall_looks hq h hcallee.node (bindSame_of_unnumbered hp)
        (looks_of_kin (kin_of_alike (x := callee) (r := callee) hargs.forall₂)))
    | @methodCall _ _ receiver _ _ _ _ h hreceiver hargs =>
      obtain _ | ⟨hreceiver, hargs⟩ := looks_of_kin
        (kin_of_alike (x := receiver) (r := receiver) (.cons hreceiver hargs.forall₂))
      exact checkMethodCall_looks hq h hreceiver (bindSame_of_unnumbered hp) hargs
    | path | int | str | borrow | deref | field | closure => rfl
  | path | int | str | borrow | deref | field | call | methodCall => rfl

/-- **What is found out about a closure** is found out about its counterpart. Where the argument
stands among those of its body, neither is redundant. -/
theorem checkClosure_kin (hq : AnswersAlike P q q') (hx : ∀ p, forwardsOne p x = false)
    (hspared : Spared P x (.path n segments) segments es) (he : e ∈ es)
    (h : Kin P x (.path n segments) e e') : checkClosure q' e' = checkClosure q e := by
  -- either the argument is not inside at all, or it is somewhere in the body
  rcases h with h | h
  · exact checkClosure_alike hq h
  · cases h with
    | @closure _ _ params params' _ _ _ _ hp hbody =>
      -- the path spells no parameter of a closure around it
      have hr := forwardsOne_path (n := n) (hspared _ _ _ _ _ he hbody)
      -- it is in the callee, among the arguments or further inside, and only then can the parameters be
      -- handed on
      cases hbody with
      | callee h hcallee hargs =>
        exact congrArg Except.ok (checkCall_looks hq h hcallee.node (bindSame_of_unnumbered hp)
          (looks_of_kin (kin_of_alike (x := x) (r := x) hargs.forall₂)))
      | @call _ _ _ _ args args' _ _ hargs =>
        have hlength : args'.length = params'.length ↔ args.length = params.length := by
          rw [length_of_fixed hargs, length_of_unnumbered hp]
        -- neither the argument nor the path is a parameter handed on
        have hhole (hl : args.length = params.length) :=
          forwards_hole hp hargs hl (fun p _ => hx p) hr
        refine congrArg Except.ok ?_
        rw [checkCall_eq_none fun hl => (hhole hl).1,
          checkCall_eq_none fun hl => (hhole (hlength.mp hl)).2]
      | receiver h hreceiver hargs =>
        obtain _ | ⟨hreceiver, hargs⟩ :=
          looks_of_kin (.cons (.inr hreceiver) (kin_of_alike hargs.forall₂))
        exact checkMethodCall_looks hq h hreceiver (bindSame_of_unnumbered hp) hargs
      | @methodCall _ _ receiver receiver' _ args args' _ hreceiver hargs =>
        have hall := FixedAll.tail hreceiver hargs
        have hlength : (receiver' :: args').length = params'.length ↔
            (receiver :: args).length = params.length := by
          rw [length_of_fixed hall, length_of_unnumbered hp]
        have hhole (hl : (receiver :: args).length = params.length) :=
          forwards_hole hp hall hl (fun p _ => hx p) hr
        change checkMethodCall q' .. = checkMethodCall q ..
        rw [checkMethodCall_eq_none fun hl => (hhole hl).1,
          checkMethodCall_eq_none fun hl => (hhole (hlength.mp hl)).2]
      | borrow | deref | field | closure => rfl
    | borrow | deref | field | callee | call | receiver | methodCall => rfl

end

/-! ### Findings at places -/

/-- The diagnostic for a closure, if it is redundant. -/
def diagnostic? (config : Config) (q : Query) (x : Expr) : Option Diagnostic :=
  (checkClosure q x).toOption.join.map fun f => diagnosticOf config (x, f)

/-- The diagnostics for the closures that a place is responsible for. -/
def diagnosticsAt (config : Config) (q : Query) (place : Expr) : List Diagnostic :=
  (findingsAt q place).map (diagnosticOf config)

/-- The findings at a place are those for its candidates, unless a macro stands there. -/
theorem diagnosticsAt_eq (place : Expr) : diagnosticsAt config q place =
    if place.span.fromMacro then [] else (candidates place).filterMap (diagnostic? config q) := by
  unfold diagnosticsAt findingsAt
  split
  · rfl
  · rw [List.map_filterMap]
    refine List.filterMap_congr fun y _ => ?_
    rw [Option.map_map]
    rfl

/-- A path is no redundant closure. -/
theorem diagnostic?_path (n : Node) (segments : Path) :
    diagnostic? config q (.path n segments) = none := rfl

/-- Parameters that are handed on are paths. -/
theorem Forwards.isPath {args : List Expr} {names : List String} (h : Forwards params args names) :
    ∀ a ∈ args, ∃ n name, a = .path n [name] := by
  induction h with
  | nil => nofun
  | cons _ _ ih => exact List.forall_mem_cons.mpr ⟨⟨_, _, rfl⟩, ih⟩

/-- A place whose candidates are paths has nothing to report. -/
private theorem diagnosticsAt_paths (h : ∀ a ∈ candidates place, ∃ n segments, a = .path n segments) :
    diagnosticsAt config q place = [] := by
  rw [diagnosticsAt_eq]
  split
  · rfl
  · refine List.filterMap_eq_nil_iff.mpr fun a ha => ?_
    obtain ⟨n, segments, rfl⟩ := h a ha
    rfl

/-- Inside of a closure that hands its parameters on to a path, nothing is redundant. -/
theorem diagnosticsAt_forwarding {node call n : Node} {ret : Option TypeExpr} {args : List Expr}
    {names : List String} (h : Forwards params args names) :
    (Expr.closure node params ret (.call call (.path n segments) args)).walk.flatMap
      (diagnosticsAt config q) = [] := by
  -- the arguments are paths, without anything inside
  have hargs : ∀ y ∈ Expr.walkAll args, diagnosticsAt config q y = [] := fun y hy => by
    obtain ⟨a, ha, hy⟩ := Expr.mem_walkAll.mp hy
    obtain ⟨m, name, rfl⟩ := h.isPath a ha
    obtain rfl := List.mem_singleton.mp hy
    exact diagnosticsAt_paths nofun
  refine List.flatMap_eq_nil_iff.mpr fun y hy => ?_
  rcases List.mem_cons.mp hy with rfl | hy
  · exact diagnosticsAt_paths nofun
  rcases List.mem_cons.mp hy with rfl | hy
  · refine diagnosticsAt_paths fun a ha => ?_
    obtain ⟨m, name, rfl⟩ := h.isPath a ha
    exact ⟨m, _, rfl⟩
  rcases List.mem_cons.mp hy with rfl | hy
  · exact diagnosticsAt_paths nofun
  · exact hargs y hy

/-! ### The findings at all places -/

/-- Away from the argument the candidates of a place have counterparts. -/
private theorem candidates_kin (h : Kin P x r e e') (hx : x ∉ e.arguments) :
    List.Forall₂ (Kin P x r) (candidates e) (candidates e') := by
  rcases h with h | h
  -- as candidates, only the arguments of a call count, and the receiver of a method call
  · cases h with
    | call _ _ hargs => exact kin_of_alike hargs.forall₂
    | methodCall _ hreceiver hargs => exact .cons (.inl hreceiver) (kin_of_alike hargs.forall₂)
    | path | int | str | borrow | deref | field | closure => exact .nil
  · cases h with
    | callee _ _ hargs => exact kin_of_alike hargs.forall₂
    | call _ _ hargs => exact hargs.kin hx
    | receiver _ hreceiver hargs => exact .cons (.inr hreceiver) (kin_of_alike hargs.forall₂)
    | methodCall _ hreceiver hargs => exact .cons (.inl hreceiver) (hargs.kin hx)
    | borrow | deref | field | closure => exact .nil

/-- At the place of the argument so have all others. -/
private theorem candidates_fixed (h : Fixed P x r e e') (hunpaired : ¬ ∃ j, P x.id j)
    (hx : x ∈ e.arguments) : ∃ as as' bs bs', candidates e = as ++ x :: bs ∧
      candidates e' = as' ++ r :: bs' ∧ List.Forall₂ (Kin P x r) as as' ∧
      List.Forall₂ (Kin P x r) bs bs' := by
  cases h with
  | callee _ _ hargs => exact absurd hx (notMem_of_kin hunpaired (kin_of_alike (r := r) hargs.forall₂))
  | call _ _ hargs => exact hargs.split hunpaired hx
  | receiver _ _ hargs =>
    exact absurd hx (notMem_of_kin hunpaired (kin_of_alike (r := r) hargs.forall₂))
  | methodCall _ hreceiver hargs =>
    obtain ⟨as, as', bs, bs', rfl, rfl, has, hbs⟩ := hargs.split hunpaired hx
    exact ⟨_ :: as, _ :: as', bs, bs', rfl, rfl, .cons (.inl hreceiver) has, hbs⟩
  | borrow | deref | field | closure => nomatch hx

/-- An argument is a candidate. -/
theorem candidates_of_arguments (h : x ∈ e.arguments) : x ∈ candidates e := by
  cases e with
  | call => exact h
  | methodCall => exact List.mem_cons_of_mem _ h
  | path | int | str | borrow | deref | field | closure => nomatch h

section

variable {n : Node} {es es' : List Expr} (hq : AnswersAlike P q q')
  (hx : ∀ p, forwardsOne p x = false) (hspared : Spared P x (.path n segments) segments es)
include hq hx hspared

/-- Candidates and their counterparts have the same findings. -/
private theorem filterMap_kin {cs cs' : List Expr}
    (h : List.Forall₂ (Kin P x (.path n segments)) cs cs') (hcs : ∀ c ∈ cs, c ∈ es) :
    cs'.filterMap (diagnostic? config q') = cs.filterMap (diagnostic? config q) := by
  -- by induction on the pairs, each of which gives the same diagnostic or none
  induction h with
  | nil => rfl
  | @cons c c' _ _ h _ ih =>
    obtain ⟨hc, hcs⟩ := List.forall_mem_cons.mp hcs
    have hspan : c'.span = c.span := h.node.span
    have hone : diagnostic? config q' c' = diagnostic? config q c := by
      unfold diagnostic? diagnosticOf
      simp only [checkClosure_kin hq hx hspared hc h, hspan]
    rw [List.filterMap_cons, List.filterMap_cons, hone, ih hcs]

/-- Away from the argument, a place has the findings that it had. -/
private theorem diagnosticsAt_kin (h : Kin P x (.path n segments) e e')
    (harg : x ∉ e.arguments) (he : ∀ c ∈ candidates e, c ∈ es) :
    diagnosticsAt config q' e' = diagnosticsAt config q e := by
  have hspan : e'.span = e.span := h.node.span
  rw [diagnosticsAt_eq, diagnosticsAt_eq, hspan,
    filterMap_kin hq hx hspared (candidates_kin h harg) he]

/-- So have all places away from it. -/
private theorem flatMap_kin {fs fs' : List Expr}
    (h : List.Forall₂ (Kin P x (.path n segments)) fs fs') (harg : x ∉ candidatesIn fs)
    (hfs : ∀ c ∈ candidatesIn fs, c ∈ es) :
    fs'.flatMap (diagnosticsAt config q') = fs.flatMap (diagnosticsAt config q) := by
  induction h with
  | nil => rfl
  | cons h _ ih =>
    rw [candidatesIn_cons] at harg hfs
    obtain ⟨hone, hrest⟩ := not_or.mp (mt List.mem_append.mpr harg)
    obtain ⟨he, hfs⟩ := List.forall_mem_append.mp hfs
    rw [List.flatMap_cons, List.flatMap_cons, ih hrest hfs,
      diagnosticsAt_kin hq hx hspared h (fun h => hone (candidates_of_arguments h)) he]

/-- The place of the argument has one finding less. -/
private theorem diagnosticsAt_fixed (h : Fixed P x (.path n segments) e e')
    (hunpaired : ¬ ∃ j, P x.id j) {d : Diagnostic} (hd : diagnostic? config q x = some d)
    (harg : x ∈ e.arguments) (he : ∀ c ∈ candidates e, c ∈ es) :
    (diagnosticsAt config q e).Perm
      ((if e.span.fromMacro then [] else [d]) ++ diagnosticsAt config q' e') := by
  obtain ⟨as, as', bs, bs', hcandidates, hcandidates', has, hbs⟩ :=
    candidates_fixed h hunpaired harg
  have hspan : e'.span = e.span := h.node.span
  rw [hcandidates] at he
  obtain ⟨hcas, -, hcbs⟩ : (∀ c ∈ as, c ∈ es) ∧ x ∈ es ∧ ∀ c ∈ bs, c ∈ es := by
    simpa only [List.forall_mem_append, List.forall_mem_cons] using he
  rw [diagnosticsAt_eq, diagnosticsAt_eq, hspan, hcandidates, hcandidates']
  split
  · exact .nil
  -- the candidates in front and behind have what they had, and the path that came in has nothing
  · rw [List.filterMap_append, List.filterMap_append, List.filterMap_cons, List.filterMap_cons,
      hd, diagnostic?_path, filterMap_kin hq hx hspared has hcas,
      filterMap_kin hq hx hspared hbs hcbs]
    exact List.perm_middle

/-- **The findings without the argument** are those there were, less the one for it. -/
theorem findings_aside (h : Aside P x (.path n segments) es es') (hunpaired : ¬ ∃ j, P x.id j)
    (hnodup : (candidatesIn es).Nodup) (hclosed : ∀ c ∈ candidatesIn es, c ∈ es)
    (hinside : x.walk.flatMap (diagnosticsAt config q) = []) {d : Diagnostic}
    (hd : diagnostic? config q x = some d) (hplace : place ∈ es) (harg : x ∈ place.arguments) :
    (es.flatMap (diagnosticsAt config q)).Perm
      ((if place.span.fromMacro then [] else [d]) ++ es'.flatMap (diagnosticsAt config q')) := by
  obtain ⟨houter, hfixed, hx₀, hbetween, hbehind⟩ := h
  rename_i outer outer' between between' behind behind' place₀ place₀'
  simp only [candidatesIn_append, candidatesIn_cons] at hnodup hclosed
  -- no other place has the argument
  have hmem := candidates_of_arguments hx₀
  have houter₀ : x ∉ candidatesIn outer := fun h =>
    (List.nodup_append.mp hnodup).2.2 x h x (List.mem_append_left _ hmem) rfl
  have hrest := (List.nodup_append.mp (List.nodup_append.mp hnodup).2.1).2.2 x hmem x
  simp only [List.mem_append, not_or, ne_eq, not_true_eq_false, imp_false] at hrest
  obtain ⟨hbetween₀, hx₀', hbehind₀⟩ := hrest
  have hnone {l : List Expr} (hl : x ∉ candidatesIn l) : place ∉ l := fun h =>
    hl (List.mem_flatMap.mpr ⟨place, h, candidates_of_arguments harg⟩)
  obtain rfl : place = place₀ := by
    simp only [List.mem_append, List.mem_cons, hnone houter₀, hnone hbetween₀, hnone hx₀',
      hnone hbehind₀, false_or, or_false] at hplace
    exact hplace
  -- the place has one finding less, and all others have what they had
  obtain ⟨hcouter, hcplace, hcbetween, -, hcbehind⟩ : (∀ c ∈ candidatesIn outer, c ∈ _) ∧
      (∀ c ∈ candidates place, c ∈ _) ∧ (∀ c ∈ candidatesIn between, c ∈ _) ∧
      (∀ c ∈ candidatesIn x.walk, c ∈ _) ∧ ∀ c ∈ candidatesIn behind, c ∈ _ := by
    simpa only [List.forall_mem_append] using hclosed
  have hlost := diagnosticsAt_fixed hq hx hspared hfixed hunpaired hd hx₀ hcplace
  have hr : (Expr.path n segments).walk.flatMap (diagnosticsAt config q') = [] :=
    List.flatMap_eq_nil_iff.mpr fun y hy => by
      obtain rfl := List.mem_singleton.mp hy
      exact diagnosticsAt_paths fun _ hc => absurd hc List.not_mem_nil
  simp only [List.flatMap_append, List.flatMap_cons, hinside, hr, List.nil_append,
    flatMap_kin hq hx hspared houter houter₀ hcouter,
    flatMap_kin hq hx hspared hbetween hbetween₀ hcbetween,
    flatMap_kin hq hx hspared hbehind hbehind₀ hcbehind]
  refine ((hlost.append_right _).append_left _).trans ?_
  rw [List.append_assoc]
  exact List.perm_append_comm_assoc ..

end

end ClosureLint.Eta
