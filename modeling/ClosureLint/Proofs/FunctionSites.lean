import ClosureLint.Proofs.Adjustments
import ClosureLint.Proofs.Checking.Accepting

/-!
# Functions where functions are expected

Where a place coerces, a function is expected, and another one is found there, the two have equally
many parameters, and only a safe function stands for an unsafe one. Their parameters and results are
not compared. They agree where they come from the place itself: a closure takes over every type that
it does not write.

* `Agrees` — two types are equal, or one of them says nothing.
* `AgreesAt` — two functions agree at a position.
* `Unwritten` — a closure writes no type at a position.
* `Expects.accepted` — what is found at a place is accepted there.
* `functionSite_accepted` — **how functions stand where functions are expected**.
* `otherParameters_accepted` — a function with other parameters is accepted, for instance.
-/

namespace ClosureLint.Typing

open ClosureLint.Core
open ClosureLint.Syntax (Program TypeExpr)

variable {c : Context} {q : Query} {f : Function} {x : Expr} {u : Ty} {coerced : Bool}
  {final : State}

/-- Two types are equal, or one of them is unknown or a type parameter. -/
def Agrees (t u : Ty) : Prop := t = u ∨ t.isLenient = true ∨ u.isLenient = true

instance (t u : Ty) : Decidable (Agrees t u) := inferInstanceAs (Decidable (_ ∨ _))

/-- Two functions agree at the position `i`: the parameter with that number, or the result, which
stands behind all parameters. -/
def AgreesAt (i : Nat) (actual expected : Ty) : Prop :=
  ∀ t ∈ actual.params[i]?, ∀ u ∈ expected.params[i]?, Agrees t u

/-- A closure with the parameters `ps` and the written result `ret` writes no type at the position
`i`. -/
def Unwritten (ps : List Param) (ret : Option TypeExpr) (i : Nat) : Prop :=
  (∃ p, ps[i]? = some p ∧ p.declared = none) ∨ i = ps.length ∧ ret = none

/-- **What is found at a place** of a body that is checked without diagnostics was checked against
what the place expects. Where the place coerces, it is accepted. -/
theorem Expects.accepted (hclean : final.diagnostics = []) (hq : q.tables = final.tables)
    (hd : Distinct f.walk) (hvisits : ∀ y ∈ f.walk, Visited c y final)
    (hstmts : ∀ st ∈ f.body.stmts, StmtChecked c st final) (h : Expects c q f coerced x u) :
    ∃ type, CleanAs c x (some u) type q.tables ∧ (coerced = true → Fits c.targets type u) := by
  rw [hq]
  have haccepted {x : Expr} {want : Option Ty} {type u : Ty} (hu : want = some u)
      (h : Accepted c x want type final.tables) :
      ∃ type, CleanAs c x (some u) type final.tables ∧ (true = true → Fits c.targets type u) := by
    obtain rfl := hu
    exact ⟨type, h.checked, fun _ => h.fits u rfl⟩
  -- along the places: what is expected inside a closure or a borrow may come from further out
  induction h with
  | argument hy hk hparams hn hx hu =>
    obtain ⟨_, _, hcall⟩ := (hvisits _ hy).cleanAs hclean
    obtain ⟨calleeType, hcallee, hargs⟩ := hcall.call (distinct_walk hd hy)
    rw [typeOf_of_lookup (hq ▸ hcallee)] at hk hparams
    obtain ⟨type, h⟩ := hargs _ hk hparams hx
    exact haccepted (expectedAt_eq_some.mpr ⟨hn, hu⟩) h
  | methodArgument hy hmethod hparams hn hx hu =>
    obtain ⟨type, h⟩ :=
      (hvisits _ hy).methodArgs_accepted (distinct_walk hd hy) hclean (hq ▸ hmethod) hparams hx
    exact haccepted (expectedAt_eq_some.mpr ⟨hn, hu⟩) h
  | value hst =>
    obtain ⟨type, h⟩ := (hstmts _ hst).value hclean
    exact haccepted rfl h
  | result hy =>
    obtain ⟨_, _, hclosure⟩ := (hvisits _ hy).cleanAs hclean
    obtain ⟨_, type, -, h⟩ := hclosure.closure (distinct_walk hd hy)
    exact haccepted rfl h
  | expectedResult hy _ hk hts hn hret ih =>
    obtain ⟨_, hclosure, -⟩ := ih
    obtain ⟨signature, type, hsignature, h⟩ := hclosure.closure (distinct_walk hd hy)
    have hfound : expectedSignature (some _) _ = .ok (some (_, _)) :=
      expectedSignature_eq_some.mpr ⟨_, rfl, hk, hts, hn, hret⟩
    obtain rfl := Except.ok.inj (hfound.symm.trans hsignature)
    exact haccepted rfl h
  | pointee hy _ hk hpart ih =>
    -- no coercion takes place behind a borrow
    obtain ⟨_, hborrow, -⟩ := ih
    obtain ⟨inner, type, hinner, h⟩ := hborrow.borrow (distinct_walk hd hy)
    rw [expectedPointee_eq_some.mpr ⟨_, rfl, hk, hpart⟩] at hinner
    obtain rfl := Except.ok.inj hinner
    exact ⟨type, h, fun hcoerced => absurd hcoerced Bool.false_ne_true⟩

/-- The parts of a function type are its parameters and its result. -/
theorem params_of_parts {us : List Ty} {r : Ty} (hk : u.kind = .function)
    (hus : u.fnParams = .ok us) (hr : u.fnRet = .ok r) : u.params = us ++ [r] := by
  obtain rfl := Except.ok.inj ((fnParams_of_kind hk).symm.trans hus)
  rw [Ty.fnRet, if_pos hk, Ty.lastPart] at hr
  split at hr
  · next hlast =>
    obtain rfl := pure_eq_ok.mp hr
    exact (List.dropLast_append_getLast? _ hlast).symm
  · cases hr

/-- **A closure takes over what it does not write** from the function that is expected. -/
theorem CleanAs.agreesAt {node : Node} {ps : List Param} {ret : Option TypeExpr} {body : Expr}
    {type : Ty} {t : Tables} (h : CleanAs c (.closure node ps ret body) (some u) type t)
    (hk : u.kind = .function) (harity : SameArity type u) (hnames : (paramNames ps).Nodup) :
    ∀ i, Unwritten ps ret i → AgreesAt i type u := by
  obtain ⟨⟨ts, us, hts, hus, hlength⟩, -⟩ := harity
  obtain ⟨ts', hts', hps⟩ := h.arity
  obtain rfl := Except.ok.inj (hts.symm.trans hts')
  obtain ⟨types, result, r, rfl, hr, hresult, hparams⟩ :=
    h.closureType hk hus (hlength.symm.trans hps) hnames
  obtain rfl := Except.ok.inj ((Ty.fnParams_function types result false).symm.trans hts)
  unfold AgreesAt
  have hown : (Ty.function types result false).params = types ++ [result] := rfl
  rw [params_of_parts hk hus hr, hown]
  -- the position is that of a parameter without a type, or that of the result
  rintro i (⟨p, hp, hdeclared⟩ | ⟨rfl, hret⟩) t ht v hv
  · have hi : i < types.length := hps ▸ (List.getElem?_eq_some_iff.mp hp).1
    rw [List.getElem?_append_left hi] at ht
    rw [List.getElem?_append_left (hlength ▸ hi)] at hv
    rcases hparams i p hp hdeclared with hsame | hunknown
    · exact .inl (Option.some.inj (ht.symm.trans (hsame.trans hv)))
    · obtain rfl := Option.some.inj (ht.symm.trans hunknown)
      exact .inr (.inl rfl)
  · rw [← hps, List.getElem?_concat_length] at ht
    rw [← hps, hlength, List.getElem?_concat_length] at hv
    exact .inl ((Option.some.inj ht).symm.trans ((hresult hret).trans (Option.some.inj hv)))

/-- **How functions stand where functions are expected.** In a program without diagnostics, wherever
a place coerces, a function is expected and a function is found, the two have equally many
parameters, and if the one that is found is unsafe, so is the expected one. If a closure with
parameters of different names is found, then the two agree at each position at which the closure
writes no type: the parameter types, or the results, are equal, or one of them is unknown or a type
parameter. -/
theorem functionSite_accepted {file : Option String} {p : Program} {checked : Checked}
    (h : check file p = .ok checked) (hclean : checked.diagnostics = []) :
    ∃ declared checks, CheckedBy file p declared checks checked ∧ ∀ k ∈ checks, ∀ x u,
      Expects (contextOf file (structNames p) declared k.body.selfType) checked.query k.function true x u →
      (checked.query.typeOf x).kind = .function → u.kind = .function →
        SameArity (checked.query.typeOf x) u ∧ ∀ node ps ret body, x = .closure node ps ret body →
          (paramNames ps).Nodup → ∀ i, Unwritten ps ret i → AgreesAt i (checked.query.typeOf x) u := by
  obtain ⟨declared, checks, hchecked⟩ := check_iff_checkedBy.mp h
  refine ⟨declared, checks, hchecked, fun k hk x u hexpects hx hu => ?_⟩
  obtain ⟨final, hbodies, he⟩ := hchecked.checks
  have hfinal : final.diagnostics = [] := by rw [← hclean, he]
  have htables : checked.query.tables = final.tables := by rw [he]; rfl
  obtain ⟨hd, hstmts⟩ := hbodies.reaches k hk
  obtain ⟨type, hcleanAs, hfits⟩ :=
    hexpects.accepted hfinal htables hd (hbodies.visits (.refl {}) k hk) hstmts
  -- the type that was checked there is the one on record
  obtain rfl := typeOf_of_lookup hcleanAs.lookup
  have harity := (fits_function_iff hx hu).mp (hfits rfl)
  refine ⟨harity, ?_⟩
  rintro node ps ret body rfl hnames
  exact hcleanAs.agreesAt hu harity hnames

/-- A program in which a function of references is passed where one of integers is expected, and a
closure where such a function is expected. -/
def otherParameters : String :=
  "fn apply(f: fn(i32) -> i32);\nfn shout(s: &str) -> &str;\nfn main() \x7b\n  apply(shout);\n"
    ++ "  apply(|n| n);\n\x7d\n"

/-- The call of a function that expects one of integers, with one of references. -/
def passesOther (q : Query) : Expr → Bool
  | .call _ callee [x] =>
    q.typeOf callee == .function [.function [.int "i32"] (.int "i32") false] .unit false
      && q.typeOf x == .function [.ref .str] (.ref .str) false
  | _ => false

/-- There the place expects another function than the one that is found. -/
theorem expects_of_passesOther {e : Expr} (he : e ∈ f.walk) (h : passesOther q e = true) :
    ∃ x u, Expects c q f true x u ∧ (q.typeOf x).kind = .function ∧ u.kind = .function ∧
      ¬ AgreesAt 0 (q.typeOf x) u := by
  unfold passesOther at h
  split at h
  · next node callee x =>
    obtain ⟨hcallee, hx⟩ := Bool.and_eq_true_iff.mp h
    have hcallee := eq_of_beq hcallee
    have hx := eq_of_beq hx
    refine ⟨x, .function [.int "i32"] (.int "i32") false, ?_, by rw [hx]; rfl, rfl,
      fun hagrees => ?_⟩
    · exact .argument (i := 0) he (by rw [hcallee]; rfl)
        (by rw [hcallee]; exact Ty.fnParams_function ..) rfl rfl rfl
    · rw [hx] at hagrees
      exact absurd (hagrees _ rfl _ rfl) (by decide)
  · exact absurd h Bool.false_ne_true

/-- **It is checked without diagnostics**, and at the first of the two places the parameters differ.
-/
theorem otherParameters_accepted : ∃ p checked, Syntax.parse otherParameters = .ok p ∧
    check none p = .ok checked ∧ checked.diagnostics = [] ∧
    ∃ declared checks, CheckedBy none p declared checks checked ∧
      (∃ k ∈ checks, ∃ x u,
        Expects (contextOf none (structNames p) declared k.body.selfType) checked.query k.function true x u ∧
          (checked.query.typeOf x).kind = .function ∧ u.kind = .function ∧
          ¬ AgreesAt 0 (checked.query.typeOf x) u) ∧
      ∀ k ∈ checks, ∀ x u,
        Expects (contextOf none (structNames p) declared k.body.selfType) checked.query k.function true x u →
        (checked.query.typeOf x).kind = .function → u.kind = .function →
          SameArity (checked.query.typeOf x) u ∧ ∀ node ps ret body, x = .closure node ps ret body →
            (paramNames ps).Nodup → ∀ i, Unwritten ps ret i → AgreesAt i (checked.query.typeOf x) u := by
  have htest : ((checkedSource? none otherParameters).any fun c =>
      c.diagnostics.isEmpty && c.functions.any fun f => f.walk.any (passesOther c.query)) = true := by
    decide +kernel
  obtain ⟨checked, hsource, htest⟩ := (Option.any_eq_true _ _).mp htest
  obtain ⟨hclean, hpasses⟩ := Bool.and_eq_true_iff.mp htest
  obtain ⟨p, hparse, hcheck⟩ := checkedSource?_eq_some.mp hsource
  have hclean := List.isEmpty_iff.mp hclean
  obtain ⟨declared, checks, hchecked, hsites⟩ := functionSite_accepted hcheck hclean
  refine ⟨p, checked, hparse, hcheck, hclean, declared, checks, hchecked, ?_, hsites⟩
  obtain ⟨f, hf, hbody⟩ := List.any_eq_true.mp hpasses
  obtain ⟨e, he, hfound⟩ := List.any_eq_true.mp hbody
  -- the function that the test names is one of the bodies that are checked
  obtain ⟨k, hk, rfl⟩ : ∃ k ∈ checks, k.function = f := by
    obtain ⟨final, -, hfunctions⟩ := hchecked.checks
    rw [hfunctions] at hf
    exact List.mem_map.mp hf
  exact ⟨k, hk, expects_of_passesOther he hfound⟩

end ClosureLint.Typing
