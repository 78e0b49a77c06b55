import ClosureLint.Lint.Eta
import ClosureLint.Proofs.Core.Meaning

/-!
# When a closure may be replaced by what it calls

`|x, y| f(x, y)` is `f` only as long as every parameter has a name of its own and `f` does not
mention any of them.

* `Forwards` — parameters that bind single names, handed on in order.
* `EtaLaw` — calling the closure is calling what it calls, whatever the forms of expressions mean.
* `etaLaw_iff` — the exact condition for it.
-/

namespace ClosureLint.Eta

open ClosureLint.Core

variable {V : Type} {params : List Param} {args : List Expr} {names : List String}

/-- The parameters bind `names`, and the arguments are these names in order. -/
inductive Forwards : List Param → List Expr → List String → Prop
  | nil : Forwards [] [] []
  | cons {p : Param} {ps : List Param} {es : List Expr} {names : List String} {n n' : Node}
    {isMut : Bool} {name : String} : p.pattern = .binding n isMut name → Forwards ps es names →
    Forwards (p :: ps) (.path n' [name] :: es) (name :: names)

/-- What the detector asks of parameters and arguments. -/
theorem forwards_of_forwards (hlen : args.length = params.length)
    (h : forwards params args = true) : ∃ names, Forwards params args names := by
  induction params generalizing args with
  | nil =>
    obtain rfl := List.length_eq_zero_iff.mp hlen
    exact ⟨[], .nil⟩
  | cons p ps ih =>
    obtain ⟨e, es, rfl⟩ := List.exists_cons_of_length_eq_add_one hlen
    simp only [forwards, List.zip_cons_cons, List.all_cons, Bool.and_eq_true] at h
    obtain ⟨hone, hrest⟩ := h
    obtain ⟨names, hnames⟩ := ih (by simpa using hlen) hrest
    unfold forwardsOne at hone
    split at hone
    · next hp =>
      obtain rfl := eq_of_beq hone
      exact ⟨_, .cons hp hnames⟩
    · exact absurd hone Bool.false_ne_true

namespace Forwards

theorem paramNames_eq (h : Forwards params args names) : paramNames params = names := by
  induction h with
  | nil => rfl
  | cons hp _ ih =>
    unfold paramNames at ih ⊢
    rw [List.flatMap_cons, ih, hp]
    rfl

theorem length_eq (h : Forwards params args names) : names.length = params.length := by
  induction h with
  | nil => rfl
  | cons _ _ ih => rw [List.length_cons, List.length_cons, ih]

theorem length_args (h : Forwards params args names) : args.length = params.length := by
  induction h with
  | nil => rfl
  | cons _ _ ih => rw [List.length_cons, List.length_cons, ih]

theorem evalAll_eq (h : Forwards params args names) (M : Interpretation V) (ρ : Env V) :
    Expr.evalAll M ρ args = names.map fun x => (ρ x).getD (M.global [x]) := by
  induction h with
  | nil => rfl
  | cons _ _ ih => rw [Expr.evalAll, ih, List.map_cons]; rfl

theorem bindArgs_cons {p : Param} {ps : List Param} {n : Node} {isMut : Bool} {name : String}
    (hp : p.pattern = .binding n isMut name) (M : Interpretation V) (vs : Nat → V) (i : Nat)
    (ρ : Env V) :
    bindArgs M (p :: ps) vs i ρ = bindArgs M ps vs (i + 1) (ρ.bind name (vs i)) := by
  rw [bindArgs, hp]
  rfl

/-- Binding single names does not depend on what other forms mean. -/
theorem bindArgs_eq (h : Forwards params args names) (M M' : Interpretation V) (vs : Nat → V)
    (i : Nat) (ρ : Env V) : bindArgs M params vs i ρ = bindArgs M' params vs i ρ := by
  induction h generalizing i ρ with
  | nil => rfl
  | cons hp _ ih => rw [bindArgs_cons hp, bindArgs_cons hp, ih]

/-- Names that no parameter has keep their values. -/
theorem bindArgs_of_notMem (h : Forwards params args names) (M : Interpretation V) (vs : Nat → V)
    (i : Nat) (ρ : Env V) {x : String} (hx : x ∉ names) : bindArgs M params vs i ρ x = ρ x := by
  induction h generalizing i ρ with
  | nil => rfl
  | cons hp _ ih =>
    obtain ⟨hne, hx⟩ := not_or.mp (mt List.mem_cons.mpr hx)
    rw [bindArgs_cons hp, ih _ _ hx, Env.bind_of_ne hne]

/-- Parameters with names of their own hand on the arguments at their places. -/
theorem map_bindArgs (h : Forwards params args names) (hd : names.Nodup) (M : Interpretation V)
    (vs : Nat → V) (i : Nat) (ρ : Env V) :
    names.map (fun x => (bindArgs M params vs i ρ x).getD (M.global [x]))
      = (List.range params.length).map fun k => vs (i + k) := by
  induction h generalizing i ρ with
  | nil => rfl
  | cons hp hrest ih =>
    obtain ⟨hx, hd⟩ := List.nodup_cons.mp hd
    rw [List.map_cons, bindArgs_cons hp, hrest.bindArgs_of_notMem M vs _ _ hx, Env.bind_self,
      ih hd, List.length_cons, List.range_succ_eq_map, List.map_cons, List.map_map]
    refine congrArg _ (List.map_congr_left fun k _ => ?_)
    rw [Function.comp, Nat.add_right_comm, Nat.add_assoc]

end Forwards

/-! ### The law -/

/-- Calling `|params| callee(args)` on any arguments is calling `callee`, evaluated outside the
closure, on these arguments, whatever the forms of expressions mean. -/
def EtaLaw (params : List Param) (call : Node) (callee : Expr) (args : List Expr) : Prop :=
  ∀ (V : Type) (M : Interpretation V) (ρ : Env V) (vs : Nat → V),
    callClosure M ρ params (.call call callee args) vs
      = M.apply (callee.eval M ρ) ((List.range params.length).map vs)

variable {call : Node} {callee : Expr}

theorem etaLaw_of_distinct (h : Forwards params args names) (hd : names.Nodup)
    (hfree : ∀ x ∈ names, x ∉ callee.freeNames) : EtaLaw params call callee args := by
  intro V M ρ vs
  -- binding the parameters changes nothing that the callee looks at
  have hcallee : callee.eval M (bindArgs M params vs 0 ρ) = callee.eval M ρ :=
    callee.eval_congr fun x hx => h.bindArgs_of_notMem M vs 0 ρ fun hn => hfree x hn hx
  have hargs : Expr.evalAll M (bindArgs M params vs 0 ρ) args
      = (List.range params.length).map vs := by
    rw [h.evalAll_eq, h.map_bindArgs hd]
    exact List.map_congr_left fun k _ => by rw [Nat.zero_add]
  rw [callClosure, Expr.eval, hcallee, hargs]

/-! ### The condition is needed

Two interpretations tell a closure from its callee: one in which a call answers one of its
arguments, and one in which a value remembers whether it came from a marked local. -/

/-- Calls answer their argument number `k`; nothing else matters. -/
def pick (k : Nat) : Interpretation Nat where
  global _ := 0
  int _ := 0
  str _ := 0
  borrow _ _ := 0
  deref _ := 0
  field _ _ := 0
  part _ _ := 0
  apply _ vs := vs.getD k 0
  method _ _ _ := 0
  closure _ _ := 0

/-- A law for all calls gives each parameter the argument at its place, so two of one name would
have the same place. -/
theorem EtaLaw.nodup (h : Forwards params args names) (hl : EtaLaw params call callee args) :
    names.Nodup := by
  -- the values handed on are 1, 2, …, and picking the argument at `k` shows what the name there holds
  have hplace : ∀ k (hk : k < names.length),
      bindArgs (pick 0) params Nat.succ 0 (fun _ => none) names[k] = some (k + 1) := by
    intro k hk
    have hk' : k < params.length := h.length_eq ▸ hk
    have he : (Expr.evalAll (pick k) (bindArgs (pick k) params Nat.succ 0 fun _ => none) args).getD
        k 0 = ((List.range params.length).map Nat.succ).getD k 0 :=
      hl Nat (pick k) (fun _ => none) Nat.succ
    rw [h.evalAll_eq, h.bindArgs_eq (pick k) (pick 0)] at he
    simp only [List.getD_eq_getElem?_getD, List.getElem?_map, List.getElem?_range hk',
      List.getElem?_eq_getElem hk, Option.map_some, Option.getD_some] at he
    cases hb : bindArgs (pick 0) params Nat.succ 0 (fun _ => none) names[k] with
    | none => rw [hb] at he; nomatch he
    | some v => rw [hb] at he; exact congrArg some he
  refine List.pairwise_iff_getElem.mpr fun k l hk hl hkl he => ?_
  -- one name at two places would hold two values
  have hk' := hplace k hk
  rw [he, hplace l hl] at hk'
  exact Nat.ne_of_gt hkl (Nat.succ.inj (Option.some.inj hk'))

/-- A value that remembers whether a marked local went into it, and for the value of a call also
whether one went into what was called. -/
structure Mark where
  marked : Bool := false
  calleeMarked : Bool := false

/-- A value is marked when one of its parts is. -/
def marking : Interpretation Mark where
  global _ := {}
  int _ := {}
  str _ := {}
  borrow _ v := { marked := v.marked }
  deref v := { marked := v.marked }
  field v _ := { marked := v.marked }
  part v _ := { marked := v.marked }
  apply f vs := { marked := f.marked || vs.any Mark.marked, calleeMarked := f.marked }
  method _ v vs := { marked := v.marked || vs.any Mark.marked }
  closure _ f := { marked := (f fun _ => {}).marked }

/-- The environment gives `x` a marked value. -/
def Marked (ρ : Env Mark) (x : String) : Prop := ∃ v, ρ x = some v ∧ v.marked = true

private theorem marked_bind {ρ : Env Mark} {name x : String} {v : Mark} :
    Marked (ρ.bind name v) x ↔ if x = name then v.marked = true else Marked ρ x := by
  unfold Marked Env.bind
  split
  · exact ⟨fun ⟨_, hv, hm⟩ => Option.some.inj hv ▸ hm, fun hm => ⟨v, rfl, hm⟩⟩
  · exact Iff.rfl

mutual

/-- Names bound to what is not marked are not marked. -/
private theorem marked_bindAll : (p : Pattern) → {v : Mark} → {ρ : Env Mark} → {x : String} →
    v.marked = false → (Marked (p.bindAll marking v ρ) x ↔ x ∉ p.names ∧ Marked ρ x)
  | .binding _ _ name, v, ρ, x, hv => by
    rw [Pattern.bindAll, marked_bind, Pattern.names, List.mem_singleton, hv]
    split
    · next h => exact ⟨nofun, fun hx => absurd h hx.1⟩
    · next h => exact ⟨fun hx => ⟨h, hx⟩, fun hx => hx.2⟩
  | .tuple _ elems, _, _, _, hv => marked_bindParts elems hv
  | .ref _ inner, _, _, _, hv => marked_bindAll inner hv
  | .wildcard _, _, _, _, _ => ⟨fun hx => ⟨List.not_mem_nil, hx⟩, fun hx => hx.2⟩

private theorem marked_bindParts : (ps : List Pattern) → {v : Mark} → {i : Nat} →
    {ρ : Env Mark} → {x : String} → v.marked = false →
    (Marked (Pattern.bindParts marking ps v i ρ) x ↔ x ∉ Pattern.namesAll ps ∧ Marked ρ x)
  | [], _, _, _, _, _ => ⟨fun hx => ⟨List.not_mem_nil, hx⟩, fun hx => hx.2⟩
  | p :: ps, v, i, _, _, hv => by
    have hpart : (marking.part v i).marked = false := hv
    rw [Pattern.bindParts, marked_bindParts ps hv, marked_bindAll p hpart, Pattern.namesAll,
      List.mem_append, not_or, ← and_assoc, and_comm (a := _ ∉ Pattern.namesAll ps)]

end

private theorem marked_bindArgs (ps : List Param) {i : Nat} {ρ : Env Mark} {x : String} :
    Marked (bindArgs marking ps (fun _ => {}) i ρ) x ↔ x ∉ paramNames ps ∧ Marked ρ x := by
  induction ps generalizing i ρ with
  | nil => exact ⟨fun hx => ⟨List.not_mem_nil, hx⟩, fun hx => hx.2⟩
  | cons p ps ih =>
    rw [bindArgs, ih, marked_bindAll p.pattern rfl, paramNames, paramNames, List.flatMap_cons,
      List.mem_append, not_or, ← and_assoc, and_comm (a := x ∉ _)]

mutual

/-- **An expression is marked exactly when one of its free names is.** -/
theorem marked_eval : (e : Expr) → {ρ : Env Mark} →
    ((e.eval marking ρ).marked = true ↔ ∃ x ∈ e.freeNames, Marked ρ x)
  | .path _ segments, ρ => by
    match segments with
    | [name] =>
      simp only [Expr.eval, Expr.freeNames, List.mem_singleton, exists_eq_left, Marked]
      -- a name that the environment lacks is not marked
      cases ρ name with
      | none => exact ⟨nofun, nofun⟩
      | some v => exact ⟨fun h => ⟨v, rfl, h⟩, fun ⟨_, hv, h⟩ => Option.some.inj hv ▸ h⟩
    | [] | _ :: _ :: _ => exact ⟨nofun, nofun⟩
  | .int .., _ | .str .., _ => ⟨nofun, nofun⟩
  | .borrow _ _ subject, _ | .deref _ subject, _ | .field _ subject _, _ => marked_eval subject
  | .call _ callee args, ρ => by
    simp only [Expr.eval, marking, Bool.or_eq_true, Expr.freeNames, List.mem_append, or_and_right,
      exists_or]
    exact or_congr (marked_eval callee) (marked_evalAll args)
  | .methodCall _ receiver _ args, ρ => by
    simp only [Expr.eval, marking, Bool.or_eq_true, Expr.freeNames, List.mem_append, or_and_right,
      exists_or]
    exact or_congr (marked_eval receiver) (marked_evalAll args)
  | .closure _ params _ body, ρ => by
    -- inside, parameters hide the names they share with the outside
    refine (marked_eval body).trans ?_
    simp only [Expr.freeNames, List.mem_filter, marked_bindArgs, decide_not, Bool.not_eq_true',
      decide_eq_false_iff_not, and_assoc]

private theorem marked_evalAll : (es : List Expr) → {ρ : Env Mark} →
    ((Expr.evalAll marking ρ es).any Mark.marked = true ↔
      ∃ x ∈ Expr.freeNamesAll es, Marked ρ x)
  | [], _ => ⟨nofun, nofun⟩
  | e :: es, ρ => by
    simp only [Expr.evalAll, List.any_cons, Bool.or_eq_true, Expr.freeNamesAll, List.mem_append,
      or_and_right, exists_or]
    exact or_congr (marked_eval e) (marked_evalAll es)

end

/-- Called on marked arguments, a closure has its parameters marked. -/
private theorem marked_params (h : Forwards params args names) {i : Nat} {ρ : Env Mark}
    {x : String} (hx : x ∈ names ∨ Marked ρ x) :
    Marked (bindArgs marking params (fun _ => { marked := true }) i ρ) x := by
  induction h generalizing i ρ with
  | nil => exact hx.resolve_left List.not_mem_nil
  | @cons _ _ _ names _ _ _ name hp _ ih =>
    rw [Forwards.bindArgs_cons hp]
    refine ih ?_
    rw [marked_bind]
    -- a later parameter of the same name is marked as well, so either case goes on
    by_cases hn : x = name
    · exact .inr (by rw [if_pos hn])
    · rw [if_neg hn]
      exact hx.imp_left fun hx => (List.mem_cons.mp hx).resolve_left hn

/-- A law for all calls keeps the parameters out of the callee. -/
theorem EtaLaw.notMem_freeNames (h : Forwards params args names)
    (hl : EtaLaw params call callee args) : ∀ x ∈ names, x ∉ callee.freeNames := by
  intro x hx hfree
  have he := congrArg Mark.calleeMarked
    (hl Mark marking (fun _ => none) fun _ => { marked := true })
  have hin : (callee.eval marking
      (bindArgs marking params (fun _ => { marked := true }) 0 fun _ => none)).marked = true :=
    (marked_eval callee).mpr ⟨x, hfree, marked_params h (.inl hx)⟩
  -- outside of the closure nothing is marked, and the law makes no difference between the two
  have hout : (callee.eval marking fun _ => none).marked = true := he.symm.trans hin
  obtain ⟨_, _, _, hv, _⟩ := (marked_eval callee).mp hout
  nomatch hv

/-- **The exact condition.** -/
theorem etaLaw_iff (h : Forwards params args names) :
    EtaLaw params call callee args ↔ names.Nodup ∧ ∀ x ∈ names, x ∉ callee.freeNames :=
  ⟨fun hl => ⟨hl.nodup h, hl.notMem_freeNames h⟩, fun ⟨hd, hf⟩ => etaLaw_of_distinct h hd hf⟩

end ClosureLint.Eta
