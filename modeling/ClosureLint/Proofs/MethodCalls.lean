import ClosureLint.Lint.Run
import ClosureLint.Proofs.Checking.Declarations
import ClosureLint.Proofs.Checking.Methods
import ClosureLint.Proofs.Grammar.Names
import ClosureLint.Proofs.Registry.Resolve
import ClosureLint.Proofs.Types.Shape

/-!
# What a method-call finding says about the receiver

A closure `|r, x| r.m(x)` is reported when the type of `r` resembles the declared receiver type:
borrowed as deeply for a trait's method, of the same shape for another one. A finding therefore
hides no borrow of the receiver, and for a method without a trait that takes `self`, `&self` or
`&mut self` no deref to another type either. The mutability of a reference may change, and a
trait's method may be found on what a struct derefs to.

* `checkClosure_methodCall` — what the detector looked at.
* `reportedMethodCall_receiver` — what a finding says.
-/

namespace ClosureLint

open ClosureLint.Core
open ClosureLint.Typing

/-! ### Methods of a type's own impls -/

namespace Registry

variable {r : Registry} {name key : String} {target step u : Ty} {d : Decl}

/-- A type on which an item of an impl is found is filed under the same name as the impl's target. -/
theorem MethodAt.implKey (h : MethodAt r name step d) (ho : d.origin = .inherent target key) :
    step.implKey = .ok key ∧ r.getInherentByKey? key name = some d := by
  obtain ⟨_, ho', -⟩ | ⟨_, _, ho', hkey, hitem⟩ := h.item
  · nomatch ho.symm.trans ho'
  · obtain ⟨-, rfl⟩ := Origin.inherent.inj (ho.symm.trans ho')
    exact ⟨hkey, hitem⟩

/-- The search ends at a type that is filed like the impl, and at the last type of the chain. -/
theorem step_eq_head {before after tail : List Ty} (hsplit : u :: tail = before ++ step :: after)
    (hbefore : ∀ v ∈ before, v.isRef = true ∨
      ∃ found, r.getInherent? v name = .ok found ∧ found.filter Decl.isMethod = none)
    (hat : MethodAt r name step d) (ho : d.origin = .inherent target key) (hu : u.isRef = false)
    (hown : u.implKey = .ok key ∨ tail = []) : step = u := by
  obtain ⟨-, hkey⟩ := hat.implKey ho
  cases before with
  | nil => exact (List.cons.inj hsplit).1.symm
  | cons v before =>
    obtain ⟨rfl, htail⟩ := List.cons.inj hsplit
    -- `u` was passed over, though the method is filed under its name, or was the last to look at
    rcases hown with hown | rfl
    · rcases hbefore u List.mem_cons_self with href | ⟨found, hfound, hnone⟩
      · exact absurd (hu.symm.trans href) Bool.false_ne_true
      · rw [getInherent?, hown] at hfound
        obtain rfl : some d = found := hkey.symm.trans (pure_eq_ok.mp hfound)
        rw [Option.filter_some, if_pos hat.mem.2] at hnone
        nomatch hnone
    · exact absurd htail.symm (List.append_ne_nil_of_right_ne_nil _ (List.cons_ne_nil _ _))

end Registry

/-- No name begins like the text of a reference. -/
def WordNames (names : String → Prop) : Prop := ∀ n, names n → n.toList.head? ≠ some '&'

section

variable {names : String → Prop} {r : Registry} {targets : DerefTable} {receiver target : Ty}
  {name key : String} {res : Resolution}

/-- A type of the shape of an impl's target is filed like it, or derefs to nothing. -/
private theorem implKey_of_sameShape {u : Ty} (hkey : target.implKey = .ok key)
    (hshape : target.sameShape u = .ok true) (hu : u.kind = .nominal) : u.implKey = .ok key := by
  obtain ⟨hkind, hname⟩ := Ty.kind_of_sameShape hshape
  have ht := hkind.trans hu
  rw [Ty.implKey, if_pos ht] at hkey
  rw [Ty.implKey, if_pos hu, ← hname ht]
  exact hkey

/-- **Where a method without a trait is found.** It was declared for no reference; so a receiver of
the shape of the impl's target is the type it is found on, and so is what a reference to such a
type refers to. -/
theorem resolveMethod_inherent (hnames : WordNames names) (hreceiver : receiver.Regular names)
    (htargets : Ty.Regular.TargetsRegular names targets) (hdecl : res.decl.WellMade names)
    (ho : res.decl.origin = .inherent target key)
    (h : r.resolveMethod targets receiver name = .ok res) :
    target.kind ≠ .ref ∧ (target.sameShape receiver = .ok true → res.step = receiver) ∧
      ∀ isMut, (Ty.ref target isMut).sameShape receiver = .ok true →
        ∃ isMut', receiver = .ref res.step isMut' := by
  obtain ⟨steps, hsteps, hres⟩ := Registry.resolveMethod_eq_ok h
  obtain ⟨before, after, hsplit, hstep, hbefore, hat, -⟩ := Registry.resolveOn_eq_ok hres
  obtain ⟨htarget, hkey⟩ := hdecl.target _ _ ho
  have hregular : res.step.Regular names := hreceiver.of_derefChain htargets hsteps _
    (hsplit ▸ List.mem_append_right _ List.mem_cons_self)
  have hkind : target.kind ≠ .ref := by
    intro hk
    obtain ⟨inner, isMut, rfl, -⟩ := htarget.eq_ref hk
    -- the step is filed by its name and the target by its text, which begins with `&`
    refine Ty.implKey_of_ne_ref hnames hregular ?_ (hat.implKey ho).1 (Ty.implKey_ref hkey)
    exact beq_eq_false_iff_ne.mp hstep
  have hplain {u : Ty} (hshape : target.sameShape u = .ok true) : u.kind ≠ .ref :=
    (Ty.kind_of_sameShape hshape).1 ▸ hkind
  -- a type of this shape is filed like the target, or has nothing behind it
  have hown {u : Ty} {tail : List Ty} (hshape : target.sameShape u = .ok true)
      (htail : u.kind ≠ .ref → u.kind ≠ .nominal → tail = []) :
      u.implKey = .ok key ∨ tail = [] := by
    by_cases hn : u.kind = .nominal
    · exact .inl (implKey_of_sameShape hkey hshape hn)
    · exact .inr (htail (hplain hshape) hn)
  refine ⟨hkind, fun hshape => ?_, fun isMut hshape => ?_⟩
  · obtain ⟨tail, rfl⟩ := Ty.derefChain_cons hsteps
    refine Registry.step_eq_head hsplit hbefore hat ho (beq_eq_false_iff_ne.mpr (hplain hshape))
      (hown hshape fun hr hn => ?_)
    exact (List.cons.inj (Ty.derefChain_single hr hn hsteps)).2
  · obtain ⟨inner, isMut', rfl, -⟩ := hreceiver.eq_ref (Ty.kind_of_sameShape hshape).1.symm
    have hinner : target.sameShape inner = .ok true := hshape
    obtain ⟨tail, rfl, htail⟩ := Ty.derefChain_ref hsteps
    refine ⟨isMut', ?_⟩
    -- the reference itself is passed over: no method is looked up on one
    cases before with
    | nil =>
      obtain ⟨hs, -⟩ := List.cons.inj hsplit
      rw [← hs] at hstep
      nomatch hstep
    | cons v before =>
      obtain ⟨rfl, hrest⟩ := List.cons.inj hsplit
      rw [Registry.step_eq_head hrest (List.forall_mem_cons.mp hbefore).2 hat ho
        (beq_eq_false_iff_ne.mpr (hplain hinner)) (hown hinner htail)]

/-- The receiver type that a well-made method declares. -/
theorem selfType?_wellMade {d : Decl} {self : Ty} {mode : SelfMode} (hd : d.WellMade names)
    (hmode : d.selfMode = some mode) (hself : d.selfType? = .ok (some self)) :
    ∃ owner, d.origin.owner? = some owner ∧ ∀ t, mode.receiver? owner = some t → self = t := by
  obtain ⟨self', params, ret, isUnsafe, htype, owner, howner, hfits⟩ := hd.receiver mode hmode
  refine ⟨owner, howner, fun t ht => ?_⟩
  rw [Decl.selfType?, hmode, htype] at hself
  have hparams : (Ty.function (self' :: params) ret isUnsafe).fnParams = .ok (self' :: params) :=
    congrArg Except.ok (@List.dropLast_concat _ (self' :: params) ret)
  rw [hparams] at hself
  exact (Option.some.inj (Except.ok.inj hself)).symm.trans (hfits t ht)

/-- **A receiver that resembles the declared one** has as many references in front as the method
asks for; a method of a type's own impls takes it as it is, or up to mutability. -/
theorem resolveMethod_receiver {self : Ty} (hnames : WordNames names)
    (hreceiver : receiver.Regular names) (htargets : Ty.Regular.TargetsRegular names targets)
    (hdecl : ∀ d ∈ r.decls, d.WellMade names)
    (h : r.resolveMethod targets receiver name = .ok res)
    (hself : res.decl.selfType? = .ok (some self))
    (hmatch : ((∃ path, res.decl.traitPath? = some path) ∧
        self.sameBorrowDepth receiver = .ok true) ∨
      res.decl.isInherent = true ∧ self.sameShape receiver = .ok true) :
    ∃ expected, expectedReceiver res.decl res.step = .ok expected ∧
      res.receiverAdjusted = (expected != receiver) ∧
      expected.borrowDepth = receiver.borrowDepth ∧
      (res.decl.isInherent = true →
        (res.decl.selfMode = some .byValue → receiver = expected) ∧
        (res.decl.selfMode = some .byRef ∨ res.decl.selfMode = some .byRefMut →
          ∃ isMut, receiver = .ref res.step isMut)) := by
  obtain ⟨steps, hsteps, hres⟩ := Registry.resolveMethod_eq_ok h
  obtain ⟨before, after, -, hstep, -, hat, expected, hexpected, hadjusted⟩ :=
    Registry.resolveOn_eq_ok hres
  have hstep := beq_eq_false_iff_ne.mp hstep
  obtain ⟨hmem, hmethod⟩ := hat.mem
  obtain ⟨mode, hmode⟩ := Option.isSome_iff_exists.mp hmethod
  have hwell := hdecl _ hmem
  obtain ⟨owner, howner, hfits⟩ := selfType?_wellMade hwell hmode hself
  -- both matchers compare the number of leading references
  have hdepth : self.borrowDepth = receiver.borrowDepth :=
    hmatch.elim (fun hm => Ty.borrowDepth_of_sameBorrowDepth _ hm.2)
      fun hm => Ty.borrowDepth_of_sameShape _ hm.2
  have hstepDepth := Ty.borrowDepth_of_ne_ref hstep
  -- what declares a method is never a reference
  have hownerDepth : owner.borrowDepth = 0 := by
    refine Ty.borrowDepth_of_ne_ref ?_
    cases ho : res.decl.origin with
    | free => rw [ho] at howner; nomatch howner
    | inherent target key =>
      rw [ho] at howner
      obtain rfl := Option.some.inj howner
      exact (resolveMethod_inherent hnames hreceiver htargets hwell ho h).1
    | traitItem path =>
      rw [ho] at howner
      obtain rfl := Option.some.inj howner
      exact nofun
  refine ⟨expected, hexpected, hadjusted, ?_, fun hinherent => ?_⟩
  · rw [← hdepth]
    rw [expectedReceiver, hmode] at hexpected
    -- each mode puts as many references in front of the step as in front of the owner
    cases mode with
    | byValue => rw [← pure_eq_ok.mp hexpected, hfits _ rfl, hstepDepth, hownerDepth]
    | byRef | byRefMut =>
      rw [← pure_eq_ok.mp hexpected, hfits _ rfl, Ty.borrowDepth_ref, Ty.borrowDepth_ref,
        hstepDepth, hownerDepth]
    | typed =>
      rw [hself] at hexpected
      rw [← pure_eq_ok.mp hexpected, Ty.borrowDepth_substSelf hstep]
  · cases ho : res.decl.origin with
    | free | traitItem path =>
      rw [Decl.isInherent, ho] at hinherent
      nomatch hinherent
    | inherent target key =>
      -- only the second matcher can have answered for a method of a type's own impls
      have hshape : self.sameShape receiver = .ok true := by
        rcases hmatch with ⟨⟨path, hpath⟩, -⟩ | ⟨-, hshape⟩
        · rw [Decl.traitPath?, ho] at hpath
          nomatch hpath
        · exact hshape
      rw [ho] at howner
      obtain rfl := Option.some.inj howner
      obtain ⟨-, hvalue, href⟩ := resolveMethod_inherent hnames hreceiver htargets hwell ho h
      rw [hmode]
      rw [expectedReceiver, hmode] at hexpected
      -- `self` takes the receiver as it is, and `&self` takes a reference to the step
      refine ⟨?_, ?_⟩
      · rintro ⟨⟩
        rw [hfits _ rfl] at hshape
        rw [← pure_eq_ok.mp hexpected, hvalue hshape]
      · rintro (⟨⟨⟩⟩ | ⟨⟨⟩⟩)
        all_goals exact href _ (hfits _ rfl ▸ hshape)

end

namespace Eta

variable {q : Query} {node call : Node} {params : List Param} {ret : Option Syntax.TypeExpr}
  {receiver : Expr} {method : String} {args : List Expr} {f : Finding}

/-- What a method is named by: the path of its trait, or the name of the receiver's type. -/
theorem qualifiedName?_owner {expected actual : Ty} {traitPath : Option String}
    {isInherent : Bool} {owner : String}
    (h : qualifiedName? expected actual traitPath isInherent = .ok (some owner)) :
    (traitPath = some owner ∧ expected.sameBorrowDepth actual = .ok true) ∨
      isInherent = true ∧ expected.sameShape actual = .ok true ∧
        actual.displayName = .ok owner := by
  -- the second matcher is asked where there is no trait, or where the first one fails
  have hrest {m : Except Fault (Option String)}
      (hm : m = do
        if isInherent then
          if ← expected.sameShape actual then return some (← actual.displayName)
        return none) (h : m = .ok (some owner)) :
      isInherent = true ∧ expected.sameShape actual = .ok true ∧
        actual.displayName = .ok owner := by
    rw [hm] at h
    split at h
    · next hi =>
      obtain ⟨same, hs, h⟩ := bind_eq_ok.mp h
      cases same with
      | false => nomatch h
      | true =>
        obtain ⟨name, hn, h⟩ := bind_eq_ok.mp h
        obtain rfl := Option.some.inj (pure_eq_ok.mp h)
        exact ⟨hi, hs, hn⟩
    · nomatch h
  unfold qualifiedName? at h
  cases traitPath with
  | none => exact .inr (hrest rfl h)
  | some path =>
    obtain ⟨same, hs, h⟩ := bind_eq_ok.mp h
    cases same with
    | true =>
      obtain rfl := Option.some.inj (pure_eq_ok.mp h)
      exact .inl ⟨rfl, hs⟩
    | false => exact .inr (hrest rfl h)

/-- When a method has a path to be named by. -/
theorem qualifiedName?_eq_some {expected actual : Ty} {traitPath : Option String}
    {isInherent : Bool} {owner : String}
    (h : qualifiedName? expected actual traitPath isInherent = .ok (some owner)) :
    ((∃ path, traitPath = some path) ∧ expected.sameBorrowDepth actual = .ok true) ∨
      isInherent = true ∧ expected.sameShape actual = .ok true :=
  (qualifiedName?_owner h).imp (fun h => ⟨⟨owner, h.1⟩, h.2⟩) fun h => ⟨h.1, h.2.1⟩

/-- What a finding for a closure that calls a method was made of. -/
theorem checkClosure_owner
    (h : checkClosure q (.closure node params ret (.methodCall call receiver method args))
      = .ok (some f)) :
    ∃ d self owner, q.method? (.methodCall call receiver method args) = some d ∧
      d.type.isUnsafeFn = false ∧ d.selfType? = .ok (some self) ∧
      qualifiedName? self (q.typeOf receiver) d.traitPath? d.isInherent = .ok (some owner) ∧
      f = ⟨some (owner ++ "::" ++ method)⟩ := by
  have hc : checkMethodCall q params (.methodCall call receiver method args) receiver method args
    = .ok (some f) := h
  -- every guard that is passed leaves what it has tested
  unfold checkMethodCall at hc
  split at hc
  · nomatch hc
  · split at hc
    · nomatch hc
    · split at hc
      · nomatch hc
      · next d hd =>
        split at hc
        · nomatch hc
        · next hsafe =>
          split at hc
          · nomatch hc
          · obtain ⟨owner, ho, hc⟩ := bind_eq_ok.mp hc
            cases owner with
            | none => nomatch hc
            | some owner =>
              obtain ⟨signature, hs, ho⟩ := bind_eq_ok.mp ho
              cases signature with
              | none => nomatch ho
              | some s =>
                rw [Query.signature?, hd] at hs
                obtain ⟨self, hself, hs⟩ := bind_eq_ok.mp hs
                cases self with
                | none => nomatch hs
                | some self =>
                  obtain rfl := Option.some.inj (pure_eq_ok.mp hs)
                  exact ⟨d, self, owner, hd, Bool.eq_false_iff.mpr hsafe, hself, ho,
                    (Option.some.inj (pure_eq_ok.mp hc)).symm⟩

/-- What a finding for a closure that calls a method says about the method. -/
theorem checkClosure_methodCall
    (h : checkClosure q (.closure node params ret (.methodCall call receiver method args))
      = .ok (some f)) :
    ∃ d self, q.method? (.methodCall call receiver method args) = some d ∧
      d.selfType? = .ok (some self) ∧
      (((∃ path, d.traitPath? = some path) ∧
          self.sameBorrowDepth (q.typeOf receiver) = .ok true) ∨
        d.isInherent = true ∧ self.sameShape (q.typeOf receiver) = .ok true) := by
  obtain ⟨d, self, owner, hd, -, hself, ho, -⟩ := checkClosure_owner h
  exact ⟨d, self, hd, hself, qualifiedName?_eq_some ho⟩

/-- How a method call of a checked program was resolved, and what its declarations and its check make of
types. -/
theorem checked_methodCall {source : String} {file : Option String} {p : Syntax.Program}
    {checked : Checked} {r : Resolution} (hparse : Syntax.parse source = .ok p)
    (hcheck : check file p = .ok checked)
    (hmem : .methodCall call receiver method args ∈ checked.functions.flatMap Function.walk)
    (hr : checked.tables.methods.lookup call.id = some r) :
    WordNames (IsStruct p) ∧ (checked.query.typeOf receiver).Regular (IsStruct p) ∧
      (∀ d ∈ checked.registry.decls, d.WellMade (IsStruct p)) ∧
      (checked.query.isAdjusted receiver = true ↔ r.receiverAdjusted = true) ∧
      ∃ targets, Ty.Regular.TargetsRegular (IsStruct p) targets ∧
        checked.registry.resolveMethod targets (checked.query.typeOf receiver) method = .ok r := by
  obtain ⟨⟨last, hn⟩, declared, final, hdeclare, htables, hregistry, hv⟩ := check_visited hcheck
  obtain ⟨b, -, hvisited⟩ := hv _ hmem
  have hd := (Distinct.of_numbered hn).sublist (Function.walk_sublist hmem)
  obtain ⟨type, htype, hresolve, hadjusted⟩ := hvisited.methodCall hd (htables ▸ hr)
  rw [htables] at htype hadjusted
  have htypeOf : checked.query.typeOf receiver = type := typeOf_of_lookup htype
  -- the names of structs come from the lexer, so none begins with an ampersand
  have hnames : WordNames (IsStruct p) := by
    rintro _ ⟨d, hd, rfl⟩ hhead
    obtain ⟨c, hc, hword⟩ := Syntax.struct_head hparse hd
    obtain rfl := Option.some.inj (hc.symm.trans hhead)
    exact absurd hword (by decide)
  have hwell := wellMade_of_declare hdeclare
  rw [htypeOf, Query.isAdjusted, List.contains_iff_mem]
  exact ⟨hnames, Ty.Regular.of_lookup (check_regular hcheck).1 htype, hregistry ▸ hwell.decls,
    hadjusted, declared.targets, hwell.targets, hregistry ▸ hresolve⟩

/-- The body of a closure is walked when the closure is. -/
theorem body_mem_walk {fs : List Function} {body : Expr}
    (h : .closure node params ret body ∈ fs.flatMap Function.walk) :
    body ∈ fs.flatMap Function.walk := by
  obtain ⟨g, hg, hx⟩ := List.mem_flatMap.mp h
  exact List.mem_flatMap.mpr
    ⟨g, hg, Function.walk_trans hx (List.mem_cons_of_mem _ (Expr.mem_walk_self _))⟩

/-- **What a method-call finding says about the receiver.** It is adjusted exactly when its type is
not the one the method asks for, and both have equally many references in front. For a method of a
type's own impls, `self` takes the receiver as it is, and `&self` and `&mut self` take it up to
mutability. -/
theorem reportedMethodCall_receiver {source : String} {file : Option String} {p : Syntax.Program}
    {checked : Checked} (hparse : Syntax.parse source = .ok p)
    (hcheck : check file p = .ok checked)
    (hmem : .closure node params ret (.methodCall call receiver method args)
      ∈ checked.functions.flatMap Function.walk)
    (hf : checkClosure checked.query
      (.closure node params ret (.methodCall call receiver method args)) = .ok (some f)) :
    ∃ r expected, checked.tables.methods.lookup call.id = some r ∧
      expectedReceiver r.decl r.step = .ok expected ∧
      (checked.query.isAdjusted receiver = true ↔ expected ≠ checked.query.typeOf receiver) ∧
      expected.borrowDepth = (checked.query.typeOf receiver).borrowDepth ∧
      (r.decl.isInherent = true →
        (r.decl.selfMode = some .byValue → checked.query.typeOf receiver = expected) ∧
        (r.decl.selfMode = some .byRef ∨ r.decl.selfMode = some .byRefMut →
          ∃ isMut, checked.query.typeOf receiver = .ref r.step isMut)) := by
  obtain ⟨d, self, hmethod, hself, hmatch⟩ := checkClosure_methodCall hf
  obtain ⟨r, hr, rfl⟩ := Option.map_eq_some_iff.mp hmethod
  obtain ⟨hnames, hregular, hwell, hadjusted, targets, htargets, hresolve⟩ :=
    checked_methodCall hparse hcheck (body_mem_walk hmem) hr
  obtain ⟨expected, hexpected, hadj, hdepth, hinherent⟩ :=
    resolveMethod_receiver hnames hregular htargets hwell hresolve hself hmatch
  refine ⟨r, expected, hr, hexpected, ?_, hdepth, hinherent⟩
  -- the resolution says whether the receiver is adjusted, and the check files it
  rw [hadjusted, hadj, bne_iff_ne]

/-! ### Findings with an adjusted receiver -/

/-- Some closure is reported that calls a method on a receiver of the given sort. -/
def reportsMethodCall (checked : Checked) (test : Expr → Bool) : Bool :=
  (checked.functions.flatMap Function.walk).any fun
    | .closure node params ret (.methodCall call receiver method args) =>
      match checkClosure checked.query
          (.closure node params ret (.methodCall call receiver method args)) with
      | .ok (some _) => test receiver
      | _ => false
    | _ => false

theorem exists_of_reportsMethodCall {checked : Checked} {test : Expr → Bool}
    (h : reportsMethodCall checked test = true) : ∃ node params ret call receiver method args f,
      .closure node params ret (.methodCall call receiver method args)
        ∈ checked.functions.flatMap Function.walk ∧
      checkClosure checked.query
        (.closure node params ret (.methodCall call receiver method args)) = .ok (some f) ∧
      test receiver = true := by
  obtain ⟨e, he, h⟩ := List.any_eq_true.mp h
  split at h
  · split at h
    · next hf => exact ⟨_, _, _, _, _, _, _, _, he, hf, h⟩
    · exact absurd h Bool.false_ne_true
  · exact absurd h Bool.false_ne_true

/-- A program that calls `each(|s| s.m())` where `s` is a `&mut S` and `m` takes a `&self`. -/
def reborrowedReceiver : String :=
  "struct S;\ntrait T \x7b fn m(&self) -> i32; \x7d\nimpl T for S \x7b\x7d\n"
    ++ "fn each(f: fn(&mut S) -> i32);\nfn main() \x7b\n  each(|s| s.m());\n\x7d\n"

/-- **A reborrow of the receiver is not noticed.** -/
theorem reborrowedReceiver_reported : ∃ checked node params ret call receiver method args f,
    checkedSource? none reborrowedReceiver = some checked ∧ checked.diagnostics = [] ∧
      .closure node params ret (.methodCall call receiver method args)
        ∈ checked.functions.flatMap Function.walk ∧
      checkClosure checked.query
        (.closure node params ret (.methodCall call receiver method args)) = .ok (some f) ∧
      checked.query.isAdjusted receiver = true := by
  -- the finding is computed, and then taken apart
  have htest : ((checkedSource? none reborrowedReceiver).any fun c =>
      c.diagnostics.isEmpty && reportsMethodCall c c.query.isAdjusted) = true := by
    decide +kernel
  obtain ⟨checked, hsource, htest⟩ := (Option.any_eq_true _ _).mp htest
  obtain ⟨hclean, hreports⟩ := Bool.and_eq_true_iff.mp htest
  obtain ⟨node, params, ret, call, receiver, method, args, f, hmem, hf, hadjusted⟩ :=
    exists_of_reportsMethodCall hreports
  exact ⟨checked, node, params, ret, call, receiver, method, args, f, hsource,
    List.isEmpty_iff.mp hclean, hmem, hf, hadjusted⟩

/-- A program that calls `each(|s| s.m())` where `s` is a `&V`, the struct `V` derefs to `[i32]`,
and the trait of `m` is implemented for `[i32]`. -/
def dereffedReceiver : String :=
  "struct V -> [i32];\ntrait T \x7b fn m(&self) -> i32; \x7d\nimpl T for [i32] \x7b\x7d\n"
    ++ "fn each(f: fn(&V) -> i32);\nfn main() \x7b\n  each(|s| s.m());\n\x7d\n"

/-- Nor is a deref to what the trait is implemented for; the receiver is a reference all the same. -/
theorem dereffedReceiver_depth : ∃ checked node params ret call receiver method args f,
    checkedSource? none dereffedReceiver = some checked ∧
      .closure node params ret (.methodCall call receiver method args)
        ∈ checked.functions.flatMap Function.walk ∧
      checkClosure checked.query
        (.closure node params ret (.methodCall call receiver method args)) = .ok (some f) ∧
      checked.query.isAdjusted receiver = true ∧
      ∃ r expected, checked.tables.methods.lookup call.id = some r ∧
        expectedReceiver r.decl r.step = .ok expected ∧
        expected ≠ checked.query.typeOf receiver ∧
        expected.borrowDepth = (checked.query.typeOf receiver).borrowDepth := by
  have htest : ((checkedSource? none dereffedReceiver).any fun c =>
      reportsMethodCall c c.query.isAdjusted) = true := by decide +kernel
  obtain ⟨checked, hsource, hreports⟩ := (Option.any_eq_true _ _).mp htest
  obtain ⟨node, params, ret, call, receiver, method, args, f, hmem, hf, hadjusted⟩ :=
    exists_of_reportsMethodCall hreports
  obtain ⟨p, hparse, hcheck⟩ := checkedSource?_eq_some.mp hsource
  obtain ⟨r, expected, hr, hexpected, hiff, hdepth, -⟩ :=
    reportedMethodCall_receiver hparse hcheck hmem hf
  exact ⟨checked, node, params, ret, call, receiver, method, args, f, hsource, hmem, hf, hadjusted,
    r, expected, hr, hexpected, hiff.mp hadjusted, hdepth⟩

end Eta

end ClosureLint
