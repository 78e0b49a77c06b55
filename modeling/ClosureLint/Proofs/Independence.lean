import ClosureLint.Proofs.Checking.BodyByBody
import ClosureLint.Proofs.Checking.Declarations
import ClosureLint.Proofs.Checking.Headers

/-!
# Bodies are checked independently

The bodies of a program share the declarations, and nothing else counts for them. So when other
statements are put into one body, all others find out what they found out before.

* `FunctionDef.BodyApart`, `OneBodyApart` — functions and programs that differ in the statements of one
  body.
* `AllButOne` — entries of two lists are related, but for one pair at most.
* `check_apart` — two such programs declare the same, and every other body gets the same findings.
-/

namespace ClosureLint

open ClosureLint.Core (OneOff)
open ClosureLint.Syntax (FunctionDef ImplDef Program Stmt StructDef TraitDef)

namespace Syntax

/-- The second function is the first with other statements in its body. -/
def FunctionDef.BodyApart (f f' : FunctionDef) : Prop :=
  ∃ stmts stmts', f.body = some stmts ∧ f' = { f with body := some stmts' }

/-- Two programs are the same but for one function, method of a trait, or method of an impl: in the
second one `f'` stands in the place of `f`. The texts they were read from need not be the same. -/
inductive OneBodyApart (f f' : FunctionDef) : Program → Program → Prop
  | function (p : Program) (source : String) (before after : List FunctionDef) :
    OneBodyApart f f' { p with functions := before ++ f :: after }
      { p with functions := before ++ f' :: after, source := source }
  | traitMethod (p : Program) (source : String) (before after : List TraitDef) (d : TraitDef)
    (ms ns : List FunctionDef) :
    OneBodyApart f f' { p with traits := before ++ { d with methods := ms ++ f :: ns } :: after }
      { p with
        traits := before ++ { d with methods := ms ++ f' :: ns } :: after
        source := source }
  | implMethod (p : Program) (source : String) (before after : List ImplDef) (d : ImplDef)
    (ms ns : List FunctionDef) :
    OneBodyApart f f' { p with impls := before ++ { d with methods := ms ++ f :: ns } :: after }
      { p with
        impls := before ++ { d with methods := ms ++ f' :: ns } :: after
        source := source }

end Syntax

open Syntax (OneBodyApart)

/-- Entries are related by `R`, but for one pair at most, which is related by `S`. -/
def AllButOne {α : Type} (R S : α → α → Prop) (l l' : List α) : Prop :=
  List.Forall₂ R l l' ∨ OneOff R S l l'

namespace Typing

variable {file : Option String} {p p' : Program} {f f' : FunctionDef} {Q : BodyRelation}
  {checked : Checked}

/-! ### Declarations -/

/-- The bodies are the same. -/
def SameBodies : BodyRelation := fun bs bs' => bs' = bs

/-- The bodies are the same, but that of `f'` may stand in the place of that of `f`. -/
def BodiesApart (f f' : FunctionDef) : BodyRelation :=
  AllButOne Eq fun b b' => b.function = f ∧ b'.function = f'

theorem sameBodies_grows : Grows (fun _ => True) SameBodies := by
  intro bs bs' b _ h
  unfold SameBodies at h ⊢
  rw [h]

theorem bodiesApart_grows : Grows (fun _ => True) (BodiesApart f f') := by
  intro bs bs' b _ h
  rcases h with h | h
  · exact .inl (List.rel_append h (.cons rfl .nil))
  · exact .inr (h.concat rfl)

/-- The function whose body differs. -/
theorem adds_apart (hf : f.BodyApart f') :
    Adds (fun l => l) (fun _ => True) SameBodies (BodiesApart f f') f f' := by
  have hsame {bs bs' : List Body} (h : SameBodies bs bs') : List.Forall₂ Eq bs bs' := by
    rw [List.forall₂_eq_eq_eq]
    exact h.symm
  obtain ⟨stmts, stmts', hbody, hf'⟩ := hf
  refine ⟨?_, fun _ _ _ _ => trivial, fun bs bs' h => .inl (hsame h),
    fun {bs bs' _ _} type selfType _ _ h => .inr ?_⟩
  -- declaring looks at headers only
  · have hheader : f'.header = f.header := by
      rw [hf', FunctionDef.header, FunctionDef.header, hbody]
      rfl
    rw [hheader, FunctionDef.header_relocate_id]
  · have hsplit := hsame h
    clear h
    induction hsplit with
    | nil => exact .here ⟨rfl, rfl⟩ .nil
    | cons hb _ ih => exact .there hb ih

/-- **Programs that differ in one body** declare the same, and the same bodies but for that one. -/
theorem declare_apart (hf : f.BodyApart f') (h : OneBodyApart f f' p p') :
    Redeclares (fun l => l) Eq SameBodies (BodiesApart f f') (declare file p) (declare file p') := by
  have hsame {Q : BodyRelation} (hQ : Grows (fun _ => True) Q) (f : FunctionDef) :
      Adds (fun l => l) (fun _ => True) Q Q f f := adds_self hQ fun _ _ => trivial
  have htraits {Q : BodyRelation} (hQ : Grows (fun _ => True) Q) (d : TraitDef) :
      AddsTrait (fun l => l) (fun _ => True) Q Q d d := addsTrait_self hQ fun _ _ => trivial
  have himpls {Q : BodyRelation} (hQ : Grows (fun _ => True) Q) (d : ImplDef) :
      AddsImpl (fun l => l) (fun _ => True) Q Q d d := addsImpl_self hQ fun _ _ => trivial
  have hfunctions {Q : BodyRelation} (hQ : Grows (fun _ => True) Q) (f : FunctionDef) :
      AddsFunction (fun l => l) (fun _ => True) Q Q f f := addsFunction_self hQ fun _ _ => trivial
  -- in a list of methods the stage changes at the one that differs
  have hmethods (ms ns : List FunctionDef) :
      Chained (Adds (fun l => l) fun _ => True) SameBodies (BodiesApart f f') (ms ++ f :: ns)
        (ms ++ f' :: ns) :=
    .around (hsame sameBodies_grows) (adds_apart hf) (hsame bodiesApart_grows) ms ns
  -- What comes before the differing item stays at one stage, what comes after it at the other.
  cases h with
  | function p source before after =>
    exact declare_restated SameBodies SameBodies registersAlike_eq
      ⟨(StructDef.map_relocate_id _).symm, fun _ _ _ _ => trivial,
        .self (htraits sameBodies_grows) _, .self (himpls sameBodies_grows) _,
        .around (hfunctions sameBodies_grows) ⟨trivial, adds_apart hf⟩
          (hfunctions bodiesApart_grows) before after⟩
  | traitMethod p source before after d ms ns =>
    have htrait : AddsTrait (fun l => l) (fun _ => True) SameBodies (BodiesApart f f')
        { d with methods := ms ++ f :: ns } { d with methods := ms ++ f' :: ns } :=
      ⟨rfl, rfl, trivial, hmethods ms ns⟩
    exact declare_restated (BodiesApart f f') (BodiesApart f f') registersAlike_eq
      ⟨(StructDef.map_relocate_id _).symm, fun _ _ _ _ => trivial,
        .around (htraits sameBodies_grows) htrait (htraits bodiesApart_grows) _ _,
        .self (himpls bodiesApart_grows) _, .self (hfunctions bodiesApart_grows) _⟩
  | implMethod p source before after d ms ns =>
    have himpl : AddsImpl (fun l => l) (fun _ => True) SameBodies (BodiesApart f f')
        { d with methods := ms ++ f :: ns } { d with methods := ms ++ f' :: ns } :=
      ⟨rfl, d.target.relocate_id.symm, rfl, fun _ _ => trivial, fun _ _ => trivial,
        hmethods ms ns⟩
    exact declare_restated SameBodies (BodiesApart f f') registersAlike_eq
      ⟨(StructDef.map_relocate_id _).symm, fun _ _ _ _ => trivial,
        .self (htraits sameBodies_grows) _,
        .around (himpls sameBodies_grows) himpl (himpls bodiesApart_grows) _ _,
        .self (hfunctions bodiesApart_grows) _⟩

theorem structNames_apart (h : OneBodyApart f f' p p') : structNames p' = structNames p := by
  cases h <;> rfl

/-! ### Bodies -/

/-- **Bodies are checked independently.** When a program can be checked, so can one that has other
statements in one of its bodies. Both have the same registry, and declaring them reports the same. Of
the checks of their bodies all but one at most, that of the body which differs, report the same and
find the same types, adjustments and meanings, expression by expression. -/
theorem check_apart (hf : f.BodyApart f') (h : OneBodyApart f f' p p')
    (hc : check file p = .ok checked) :
    ∃ checked', check file p' = .ok checked' ∧ checked'.registry = checked.registry ∧
      ∃ declared declared' checks checks',
        CheckedBy file p declared checks checked ∧ CheckedBy file p' declared' checks' checked' ∧
          declared'.diagnostics = declared.diagnostics ∧
          AllButOne (SameFindings checked.query checked'.query)
            (fun k k' => k.body.function = f ∧ k'.body.function = f') checks checks' := by
  obtain ⟨declared, checks, hchecks⟩ := check_iff_checkedBy.mp hc
  obtain ⟨declared', hd', hregistry, htargets, hdiagnostics, hbodies⟩ :=
    (declare_apart hf h).runs hchecks.declares (⟨rfl, rfl, rfl, rfl⟩ : Restated _ Eq SameBodies {} {})
  rw [List.map_congr_left fun d _ => Diagnostic.relocate_id d, List.map_id'] at hdiagnostics
  obtain ⟨checked', hc'⟩ := check_of_declare hd'
  obtain ⟨declared₂, checks', hchecks'⟩ := check_iff_checkedBy.mp hc'
  obtain rfl : declared' = declared₂ :=
    congrArg Prod.snd (Except.ok.inj (hd'.symm.trans hchecks'.declares))
  -- both runs check their bodies one after the other
  obtain ⟨final, hruns, he⟩ := hchecks.checks
  obtain ⟨final', hruns', he'⟩ := hchecks'.checks
  have hregistries : checked'.registry = checked.registry := by
    rw [he, he']
    exact hregistry.symm
  have htables : checked.query.tables = final.tables := by rw [he]; rfl
  have htables' : checked'.query.tables = final'.tables := by rw [he']; rfl
  rw [structNames_apart h] at hruns'
  refine ⟨checked', hc', hregistries, declared, declared', checks, checks', hchecks, hchecks',
    hdiagnostics, ?_⟩
  rw [← hchecks.bodies, ← hchecks'.bodies] at hbodies
  -- Either the body that differs is checked in both runs, or it is refused in both.
  rcases hbodies with hsame | hone
  · rw [List.forall₂_eq_eq_eq] at hsame
    exact .inl (sameFindings_of_bodyChecks hregistry.symm htargets htables htables' hruns hruns'
      (ready_start _) (ready_start _) hsame.symm)
  · exact .inr (oneOff_of_bodyChecks hregistry.symm htargets htables htables' hruns hruns'
      (ready_start _) (ready_start _) hone)

/-- Two functions: `first` with the given statements, and `second`, which asks for a local `lost` that
it does not have. -/
def askingForLost (stmts : List Stmt) : Program :=
  { functions :=
      [⟨{}, ["first"], false, none, [], none, some stmts⟩,
        ⟨{}, ["second"], false, none, [], none, some [.exprStmt {} (.path {} ["lost"])]⟩] }

/-- **A local of one body** is of no use to another, whatever the number of nodes in front. -/
theorem askingForLost_apart : ∃ checked checked',
    check none (askingForLost []) = .ok checked ∧
      check none (askingForLost [.letStmt {} false "lost" none (.int {} 1)]) = .ok checked' ∧
      checked.diagnostics.length = 1 ∧ checked'.registry = checked.registry ∧
      ∃ declared declared' checks checks',
        CheckedBy none (askingForLost []) declared checks checked ∧
          CheckedBy none (askingForLost [.letStmt {} false "lost" none (.int {} 1)]) declared' checks'
            checked' ∧
          declared'.diagnostics = declared.diagnostics ∧
          AllButOne (SameFindings checked.query checked'.query)
            (fun k k' =>
              k.body.function = ⟨{}, ["first"], false, none, [], none, some []⟩ ∧
              k'.body.function = ⟨{}, ["first"], false, none, [], none,
                some [.letStmt {} false "lost" none (.int {} 1)]⟩) checks checks' := by
  have hcheck : ((check none (askingForLost [])).toOption.any fun c => c.diagnostics.length == 1)
      = true := by decide +kernel
  obtain ⟨checked, hsome, hlength⟩ := (Option.any_eq_true _ _).mp hcheck
  have hc := toOption_eq_some.mp hsome
  -- the two programs differ in the body of the first function only
  obtain ⟨checked', hc', hsame⟩ := check_apart ⟨[], _, rfl, rfl⟩
    (.function (askingForLost []) "" [] [_]) hc
  exact ⟨checked, checked', hc, hc', eq_of_beq hlength, hsame⟩

end Typing

end ClosureLint
