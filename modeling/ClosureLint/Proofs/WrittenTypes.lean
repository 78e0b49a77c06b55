import ClosureLint.Proofs.Checking.Vouching

/-!
# Which written types are known to resolve

A program without diagnostics has a meaning for every type that checking looks at: in structs, at
impls, in the heads and bodies of functions, traits' items and impls' items. The one exception is
the head of an item without a body in the impl of a trait. Nothing is registered for it, so nothing
looks at its types, and anything may stand there.

* `Written`, `Program.written` — the types that are written in a program, each with its scope.
* `Program.Resolved` — all of them have a meaning, and so have the types that they are built from.
* `Program.reheaded` — the program with other heads where they are not looked at.
* `check_reheaded` — that changes nothing.
* `examined_resolves` — **which types resolve in a program without diagnostics**.
* `overlookedResult_unresolved` — a program without diagnostics in which one does not.
-/

namespace ClosureLint

open ClosureLint.Syntax (FunctionDef ImplDef Program StructDef TraitDef TypeExpr)

namespace Typing

/-- A type that is written in a program: the scope that it stands in, and whether checking looks at
it. -/
structure Written where
  scope : TypeScope
  type : TypeExpr
  examined : Bool

end Typing

open Typing

namespace Syntax

/-- The types in a function: those in its head, which are looked at where `head` says so, and those
in its body. -/
def FunctionDef.written (scope : TypeScope) (head : Bool) (f : FunctionDef) : List Written :=
  f.writtenTypes.map (⟨scope, ·, head⟩) ++ f.annotations.map (⟨scope, ·, true⟩)

/-- The types in a struct. -/
def StructDef.written (scope : TypeScope) (d : StructDef) : List Written :=
  d.derefTarget.toList.map (⟨scope, ·, true⟩)

/-- The types in a trait, where `Self` is the type that implements it. -/
def TraitDef.written (scope : TypeScope) (d : TraitDef) : List Written :=
  d.methods.flatMap (FunctionDef.written scope.inTrait true)

/-- The types in an impl, where `Self` is its target. In the impl of a trait the heads of items
without a body are not looked at. -/
def ImplDef.written (scope : TypeScope) (d : ImplDef) : List Written :=
  ⟨scope, d.target, true⟩ :: d.methods.flatMap fun f =>
    f.written (scope.inImpl d) (d.traitPath.isNone || f.body.isSome)

/-- The types in a program. -/
def Program.written (file : Option String) (p : Program) : List Written :=
  let scope : TypeScope := ⟨structNames p, file, none⟩
  p.structs.flatMap (StructDef.written scope) ++ (p.traits.flatMap (TraitDef.written scope) ++
    (p.impls.flatMap (ImplDef.written scope) ++ p.functions.flatMap (FunctionDef.written scope true)))

/-- All types in a program have a meaning, each in its own scope, and so have all types that they
are built from. -/
def Program.Resolved (file : Option String) (p : Program) : Prop :=
  ∀ w ∈ p.written file, ∀ t ∈ w.type.within, Silent w.scope t

/-- The function with another head, if it has no body. -/
def FunctionDef.reheaded (g : FunctionDef → FunctionDef) (f : FunctionDef) : FunctionDef :=
  if f.body.isSome then f
  else { f with receiver := (g f).receiver, params := (g f).params, ret := (g f).ret }

/-- The impl with other heads for the items without a body, if it is that of a trait. -/
def ImplDef.reheaded (g : FunctionDef → FunctionDef) (d : ImplDef) : ImplDef :=
  if d.traitPath.isSome then { d with methods := d.methods.map (FunctionDef.reheaded g) } else d

/-- The program with other heads for the items without a body in the impls of traits. -/
def Program.reheaded (g : FunctionDef → FunctionDef) (p : Program) : Program :=
  { p with impls := p.impls.map (ImplDef.reheaded g) }

end Syntax

namespace Typing

variable {file : Option String} {scope : TypeScope} {final : List Body} {head : Bool}
  {f : FunctionDef}
  {p : Program} {checked : Checked}

/-! ### What is looked at -/

/-- The types of a function that are looked at in a silent run. -/
theorem Attested.silent (h : Attested scope final head f)
    (hbodies : ∀ b ∈ final, ∀ t ∈ b.stmts.flatMap Syntax.Stmt.annotations,
      Silent { scope with selfType := b.selfType } t) :
    ∀ w ∈ f.written scope head, w.examined = true → Silent w.scope w.type := by
  refine List.forall_mem_append.mpr ⟨?_, ?_⟩
  · refine List.forall_mem_map.mpr fun t ht hhead => h.head hhead t ht
  · refine List.forall_mem_map.mpr fun t ht _ => ?_
    unfold FunctionDef.annotations at ht
    -- only a body has annotations, and it was checked
    cases hbody : f.body with
    | none =>
      rw [hbody] at ht
      nomatch ht
    | some stmts =>
      rw [hbody] at ht
      obtain ⟨b, hb, -, rfl, hself⟩ := h.body stmts hbody
      have hsilent := hbodies b hb t ht
      rwa [hself] at hsilent

/-- The bodies of a program that is checked silently have only types with a meaning. -/
theorem CheckedBy.silent {declared : Declared} {checks : List BodyCheck}
    (h : CheckedBy file p declared checks checked) (hclean : checked.diagnostics = []) :
    ∀ b ∈ declared.bodies, ∀ t ∈ b.stmts.flatMap Syntax.Stmt.annotations,
      Silent ⟨structNames p, file, b.selfType⟩ t := by
  obtain ⟨final, hchecks, rfl⟩ := h.checks
  intro b hb t ht
  obtain ⟨k, hk, rfl⟩ := List.mem_map.mp (h.bodies ▸ hb)
  exact hchecks.silent (.refl {}) hclean k hk t ht

/-- In a program without diagnostics every type that is looked at has a meaning. -/
theorem examined_silent (h : check file p = .ok checked) (hclean : checked.diagnostics = []) :
    ∀ w ∈ p.written file, w.examined = true → Silent w.scope w.type := by
  obtain ⟨declared, checks, hchecked⟩ := check_iff_checkedBy.mp h
  have hbodies := hchecked.silent hclean
  obtain ⟨hdeclared, -⟩ := List.append_eq_nil_iff.mp (hchecked.diagnostics ▸ hclean)
  obtain ⟨-, hall⟩ := (declare_vouches p).vouches hchecked.declares ⟨hdeclared, fun _ => id⟩
  -- item by item
  have hitems {α : Type} {items : List α} {g : α → List Written}
      (hg : ∀ a ∈ items, ∀ w ∈ g a, w.examined = true → Silent w.scope w.type) :
      ∀ w ∈ items.flatMap g, w.examined = true → Silent w.scope w.type := by
    intro w hw
    obtain ⟨a, ha, hw⟩ := List.mem_flatMap.mp hw
    exact hg a ha w hw
  unfold Program.written
  refine List.forall_mem_append.mpr ⟨?_, List.forall_mem_append.mpr ⟨?_,
    List.forall_mem_append.mpr ⟨?_, ?_⟩⟩⟩
  · exact hitems fun d hd => List.forall_mem_map.mpr fun t ht _ =>
      hall.structs d hd t (Option.mem_toList.mp ht)
  · exact hitems fun d hd => hitems fun f hf => (hall.traits d hd f hf).silent hbodies
  · refine hitems fun d hd => List.forall_mem_cons.mpr ⟨fun _ => (hall.impls d hd).1, ?_⟩
    exact hitems fun f hf => ((hall.impls d hd).2 f hf).silent hbodies
  · exact hitems fun f hf => (hall.functions f hf).silent hbodies

/-! ### What is not looked at -/

variable (g : FunctionDef → FunctionDef)

theorem declareTraitItem_reheaded (traitPath : String) (f : FunctionDef) :
    declareTraitItem scope traitPath (f.reheaded g) = declareTraitItem scope traitPath f := by
  unfold FunctionDef.reheaded
  split
  · rfl
  · next hbody =>
    unfold declareTraitItem
    simp only [if_neg hbody]
    rfl

theorem forM_of_same {α : Type} {m : α → Declare Unit} {r : α → α} (h : ∀ a, m (r a) = m a)
    (l : List α) : (l.map r).forM m = l.forM m := by
  have hmap : (l.map r).forM m = l.forM fun a => m (r a) := List.forM_map
  rw [hmap, funext h]

theorem declareImpl_reheaded (d : ImplDef) :
    declareImpl scope (d.reheaded g) = declareImpl scope d := by
  unfold ImplDef.reheaded
  split
  · next htrait =>
    obtain ⟨path, hpath⟩ := Option.isSome_iff_exists.mp htrait
    unfold declareImpl
    simp only [hpath, declareTraitImpl, forM_of_same (declareTraitItem_reheaded g _)]
  · rfl

/-- **Other heads for a trait impl's items without a body** change nothing about the check. -/
theorem check_reheaded (p : Program) : check file (p.reheaded g) = check file p := by
  have hdeclare : declare file (p.reheaded g) = declare file p := by
    have himpls (scope : TypeScope) : (p.reheaded g).impls.forM (declareImpl scope)
        = p.impls.forM (declareImpl scope) := forM_of_same (declareImpl_reheaded g) p.impls
    unfold declare
    simp only [himpls]
    rfl
  unfold check
  rw [hdeclare]
  rfl

variable {g}

/-! ### The types of a program -/

/-- **Which types resolve.** In a program without diagnostics every written type has a meaning in
its own scope, and so has every type that it is built from, unless it stands in the head of an item
without a body in the impl of a trait. So all types of the program resolve if and only if those do.
These heads are not looked at: with any others in their place the check is the same. -/
theorem examined_resolves (h : check file p = .ok checked) (hclean : checked.diagnostics = []) :
    (∀ w ∈ p.written file, w.examined = true → ∀ t ∈ w.type.within, Silent w.scope t) ∧
      (p.Resolved file ↔ ∀ w ∈ p.written file, w.examined = false → Silent w.scope w.type) ∧
      ∀ g, check file (p.reheaded g) = .ok checked := by
  have hexamined := examined_silent h hclean
  refine ⟨fun w hw he => .within w.type (hexamined w hw he), ⟨fun hp w hw _ => ?_, fun hp w hw => ?_⟩,
    fun g => (check_reheaded g p).trans h⟩
  · exact hp w hw w.type w.type.mem_within_self
  · cases he : w.examined with
    | true => exact .within w.type (hexamined w hw he)
    | false => exact .within w.type (hp w hw he)

/-- The impl of a trait in which an item without a body has a result of no meaning. -/
def overlookedResult : String :=
  "trait T \x7b fn m(&self); \x7d\nstruct S;\nimpl T for S \x7b fn m(&self) -> Missing; \x7d\n"

/-- **It is checked without diagnostics**, and that type does not resolve. -/
theorem overlookedResult_unresolved : ∃ p checked, Syntax.parse overlookedResult = .ok p ∧
    check none p = .ok checked ∧ checked.diagnostics = [] ∧ ¬ p.Resolved none ∧
      (∀ w ∈ p.written none, w.examined = true → ∀ t ∈ w.type.within, Silent w.scope t) ∧
      (p.Resolved none ↔ ∀ w ∈ p.written none, w.examined = false → Silent w.scope w.type) ∧
      ∀ g, check none (p.reheaded g) = .ok checked := by
  -- one run of the checker tells that all is well and which type was not looked at
  have htest : ((Syntax.parse overlookedResult).toOption.any fun p =>
      ((check none p).toOption.any fun c => c.diagnostics.isEmpty) &&
        (p.written none).any fun w => !w.examined && !decide (Silent w.scope w.type)) = true := by
    decide +kernel
  obtain ⟨p, hparse, htest⟩ := (Option.any_eq_true _ _).mp htest
  obtain ⟨hcheck, hoverlooked⟩ := Bool.and_eq_true_iff.mp htest
  obtain ⟨checked, hcheck, hclean⟩ := (Option.any_eq_true _ _).mp hcheck
  obtain ⟨w, hw, hwritten⟩ := List.any_eq_true.mp hoverlooked
  obtain ⟨-, hmissing⟩ := Bool.and_eq_true_iff.mp hwritten
  have hresolves := examined_resolves (toOption_eq_some.mp hcheck) (List.isEmpty_iff.mp hclean)
  refine ⟨p, checked, toOption_eq_some.mp hparse, toOption_eq_some.mp hcheck,
    List.isEmpty_iff.mp hclean, fun hp => ?_, hresolves⟩
  have hsilent := hp w hw w.type w.type.mem_within_self
  exact absurd (decide_eq_true hsilent) (by simpa using hmissing)

end Typing

end ClosureLint
