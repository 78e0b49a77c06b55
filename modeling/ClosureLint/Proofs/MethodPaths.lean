import ClosureLint.Proofs.Checking.Bodies
import ClosureLint.Proofs.Checking.Meanings
import ClosureLint.Proofs.Checking.Registering
import ClosureLint.Proofs.DirectFix
import ClosureLint.Proofs.MethodCalls

/-!
# Whether a suggested path means the method

A finding for `|r, x| r.m(x)` suggests a path such as `Vec::m`. The path can always be read. What it
means is looked up in another way than the method was: a function of that path comes first, then what
its front names, be it `Self`, a built-in type, a struct or a trait.

* `owns_untyped` — the struct that a receiver `self`, `&self` or `&mut self` refers to leads to it.
* `FrontOf`, `exists_frontOf` — what stands in front of the method's name in a finding.
* `reportedMethodCall_path` — what the path of a finding means.
* `unrelatedOwner_breaks` — a finding whose path means nothing.
-/

namespace ClosureLint

open ClosureLint.Core
open ClosureLint.Syntax (Path)
open ClosureLint.Typing

/-! ### What the front of a suggested path names -/

namespace Typing

variable {c : Context} {front : Path} {name : String}

/-- A declared struct is among the names. -/
theorem insert_paths (names : StructNames) (path : String) :
    path ∈ (names.insert path).paths ∧ ∀ x ∈ names.paths, x ∈ (names.insert path).paths := by
  unfold StructNames.insert
  split
  · next h => exact ⟨h, fun _ hx => hx⟩
  · exact ⟨List.mem_append_right _ List.mem_cons_self, fun _ hx => List.mem_append_left _ hx⟩

theorem mem_structNames {p : Syntax.Program} {path : String} (h : IsStruct p path) :
    path ∈ (structNames p).paths := by
  -- what is entered stays, so the induction is over what is still to be entered
  have hfold : ∀ (paths : List String) (names : StructNames) (x : String),
      x ∈ names.paths ∨ x ∈ paths → x ∈ (paths.foldl StructNames.insert names).paths := by
    intro paths
    induction paths with
    | nil => exact fun _ _ h => h.resolve_right List.not_mem_nil
    | cons path paths ih =>
      intro names x hx
      refine ih _ x ?_
      rcases hx with hx | hx
      · exact .inl ((insert_paths names path).2 x hx)
      · rcases List.mem_cons.mp hx with rfl | hx
        · exact .inl (insert_paths names x).1
        · exact .inr hx
  obtain ⟨d, hd, rfl⟩ := h
  exact hfold _ {} _ (.inr (List.mem_map_of_mem hd))

/-- The path of a declared struct names that struct, unless it is the name of something built in. -/
theorem ownerType?_struct {p : Syntax.Program} (hnames : c.scope.names = structNames p)
    (h : IsStruct p (Path.text front)) (hbuiltIn : builtInOwner? c.scope.selfType front = none) :
    ownerType? c front = some (.nominal (Path.text front)) := by
  have hfind : c.scope.names.find? front = some (Path.text front) := by
    unfold StructNames.find?
    exact if_pos (hnames ▸ mem_structNames h)
  rw [ownerType?, hbuiltIn, hfind]
  rfl

/-- The path of a declared trait names that trait. -/
theorem findTrait?_text {r : Registry} (h : Path.text front ∈ r.traits) :
    r.findTrait? front = some (Path.text front) := by
  unfold Registry.findTrait?
  exact if_pos (List.contains_iff_mem.mpr h)

/-- **The struct that a receiver refers to leads to the method**, where the method is one of an impl
without a trait that takes `self`, `&self` or `&mut self`. -/
theorem owns_untyped {names : String → Prop} {targets : DerefTable} {receiver self : Ty}
    {res : Resolution} {args : List Ty} (hwords : WordNames names)
    (hreceiver : receiver.Regular names) (htargets : Ty.Regular.TargetsRegular names targets)
    (hdecls : ∀ d ∈ c.registry.decls, d.WellMade names)
    (h : c.registry.resolveMethod targets receiver name = .ok res)
    (hself : res.decl.selfType? = .ok (some self)) (hinherent : res.decl.isInherent = true)
    (hshape : self.sameShape receiver = .ok true) (hmode : res.decl.selfMode ≠ some .typed)
    (hstrip : receiver.stripRefs = .ok (.nominal (Path.text front) args))
    (hfront : ownerType? c front = some (.nominal (Path.text front))) :
    Owns c front name res.decl := by
  obtain ⟨expected, hexpected, -, -, huntyped⟩ :=
    resolveMethod_receiver hwords hreceiver htargets hdecls h hself (.inr ⟨hinherent, hshape⟩)
  obtain ⟨hvalue, href⟩ := huntyped hinherent
  obtain ⟨steps, -, hres⟩ := Registry.resolveMethod_eq_ok h
  obtain ⟨-, -, -, hnoref, -, hat, -⟩ := Registry.resolveOn_eq_ok hres
  have hplain : res.step.stripRefs = .ok res.step := Ty.stripRefs_of_ne_ref (beq_eq_false_iff_ne.mp hnoref)
  -- in all three modes the method was found on what the receiver is below its references
  have hstep : receiver.stripRefs = .ok res.step := by
    obtain ⟨mode, hm⟩ := Option.isSome_iff_exists.mp hat.mem.2
    cases mode with
    | byValue =>
      rw [expectedReceiver, hm] at hexpected
      rw [hvalue hm, ← pure_eq_ok.mp hexpected]
      exact hplain
    | byRef =>
      obtain ⟨isMut, hr⟩ := href (.inl hm)
      rw [hr]
      exact hplain
    | byRefMut =>
      obtain ⟨isMut, hr⟩ := href (.inr hm)
      rw [hr]
      exact hplain
    | typed => exact absurd hm hmode
  have hkey : res.step.implKey = .ok (Path.text front) := by
    rw [← Except.ok.inj (hstrip.symm.trans hstep)]
    rfl
  -- it is no item of a trait
  obtain ⟨path, ho, -⟩ | ⟨target, key, ho, hkey', -⟩ := hat.item
  · rw [Decl.isInherent, ho] at hinherent
    exact absurd hinherent Bool.false_ne_true
  · obtain rfl := Except.ok.inj (hkey'.symm.trans hkey)
    exact .own ho hfront rfl

end Typing

namespace Eta

/-- The text of a path is read as that path. -/
theorem path_reads {path : Path} (h : path.Written) :
    ∃ ts, lex path.text = ⟨ts, none⟩ ∧
      Syntax.Reads Syntax.readExpr ts (.path (Syntax.extentOf ts) path) [] (Syntax.stopOf ts) [] := by
  obtain ⟨ts, q, hlexes, hpath⟩ := Syntax.lexes_path h {}
  refine ⟨ts, lex_iff.mpr ⟨q, hlexes⟩, ?_⟩
  have hreads := Syntax.readExpr_complete (.unary (.chain (.atom (.path hpath)))) [] nofun
  rwa [List.append_nil] at hreads

/-- No other path is read from its text. -/
theorem eq_of_path_reads {path q : Path} {ts : List Token} {loc : Loc} {stop : Pos}
    (h : path.Written) (hlex : lex path.text = ⟨ts, none⟩)
    (hreads : Syntax.Reads Syntax.readExpr ts (.path loc q) [] stop []) : q = path := by
  obtain ⟨ts', hlex', r, hr, hvalue, -⟩ := path_reads h
  obtain rfl : ts = ts' := (Lexed.mk.inj (hlex.symm.trans hlex')).1
  obtain ⟨r', hr', hvalue', -⟩ := hreads
  obtain rfl := Except.ok.inj (hr.symm.trans hr')
  exact (Syntax.Expr.path.inj (hvalue'.symm.trans hvalue)).2

variable {file : Option String} {source : String} {p : Syntax.Program} {checked : Checked}
  {F : Function} {place x : Expr} {node call : Node} {params : List Param}
  {ret : Option Syntax.TypeExpr} {receiver : Expr} {method : String} {args : List Expr} {f : Finding}

/-- The name of a method that a candidate calls can stand in a path. -/
theorem method_isName (hparse : Syntax.parse source = .ok p) (hcheck : check file p = .ok checked)
    (hclean : hasErrors checked.diagnostics = false) (hF : F ∈ checked.functions)
    (hplace : place ∈ F.walk) (hx : x ∈ candidates place)
    (hclosure : x = .closure node params ret (.methodCall call receiver method args)) :
    IsName method := by
  have hheld : Syntax.IsHeld x F.walk := ⟨by rw [hclosure]; rfl, place, hplace, hx⟩
  -- the closure stands in the text, and the name of the method is one of its tokens
  obtain ⟨before, C, behind, _, _, _, c, n, htokens, -, -, hC, hnode, -⟩ :=
    held_hole hparse hcheck hclean hF hheld
  obtain ⟨t, ht, hk, rfl⟩ := hC.closure_method (hnode.symm.trans hclosure)
  obtain ⟨q, hlexes⟩ := lexes_of_lexFrom {} source.toList (Syntax.parse_sound hparse).1
  refine hlexes.isName t ?_ hk
  rw [show (lexFrom {} source.toList).tokens = _ from htokens]
  exact List.mem_append_right before (List.mem_append_left behind ht)

/-- What stands in front of the name of a method `d` in the text of a finding, where the receiver that
`d` asks for is `asked` and the one of the call is `receiver`. -/
structure FrontOf (p : Syntax.Program) (r : Registry) (d : Decl) (asked receiver : Ty)
    (front : Path) : Prop where
  /-- It is made of names. -/
  written : front.Written
  /-- It is the path of the trait that the method is an item of, -/
  ofTrait : ∀ path, d.origin = .traitItem path → path = front.text ∧ path ∈ r.traits
  /-- or of the struct that the receiver refers to, which the method's own receiver does too. -/
  ofStruct : d.isInherent = true → IsStruct p front.text ∧ asked.sameShape receiver = .ok true ∧
    ∃ args, receiver.stripRefs = .ok (.nominal front.text args)

/-- The owner that the detector names is such a path. -/
theorem exists_frontOf {r : Registry} {d : Decl} {step asked receiver : Ty} {owner : String}
    (hparse : Syntax.parse source = .ok p) (htraits : TraitsDeclared p r)
    (hat : Registry.MethodAt r method step d) (hregular : receiver.Regular (IsStruct p))
    (howner : qualifiedName? asked receiver d.traitPath? d.isInherent = .ok (some owner))
    (hnamed : (∃ path, d.traitPath? = some path) ∨
      ∃ path args, receiver.stripRefs = .ok (.nominal path args)) :
    ∃ front : Path, front.text = owner ∧ FrontOf p r d asked receiver front := by
  have howner := qualifiedName?_owner howner
  have hstruct : d.isInherent = true → IsStruct p owner ∧ asked.sameShape receiver = .ok true ∧
      ∃ args, receiver.stripRefs = .ok (.nominal owner args) := by
    intro hinherent
    obtain ⟨target, key, ho⟩ := Decl.isInherent_iff.mp hinherent
    have hno (path : String) : d.traitPath? ≠ some path := fun hpath =>
      nomatch (Decl.traitPath?_eq_some.mp hpath).symm.trans ho
    obtain ⟨-, hshape, hdisplay⟩ := howner.resolve_left fun h => hno owner h.1
    obtain ⟨path, args, hstrip⟩ := hnamed.resolve_left fun ⟨path, hpath⟩ => hno path hpath
    -- the receiver is shown by the struct that it refers to
    rw [Ty.displayName, hstrip] at hdisplay
    obtain rfl : path = owner := Except.ok.inj hdisplay
    obtain ⟨t, ht, hregular⟩ := hregular.stripRefs
    obtain rfl := Except.ok.inj (hstrip.symm.trans ht)
    exact ⟨hregular.nominal_name, hshape, args, hstrip⟩
  have htrait : ∀ path, d.origin = .traitItem path → path = owner ∧ path ∈ r.traits := by
    intro path ho
    refine ⟨?_, htraits.items _ hat.mem.1 path ho⟩
    rcases howner with ⟨hpath, -⟩ | ⟨hinherent, -, -⟩
    · exact Origin.traitItem.inj (ho.symm.trans (Decl.traitPath?_eq_some.mp hpath))
    · obtain ⟨target, key, ho'⟩ := Decl.isInherent_iff.mp hinherent
      nomatch ho.symm.trans ho'
  obtain ⟨path, ho, -⟩ | ⟨target, key, ho, -, -⟩ := hat.item
  · obtain ⟨rfl, hmem⟩ := htrait path ho
    obtain ⟨t, ht, rfl⟩ := htraits.declared path hmem
    exact ⟨t.path, rfl, Syntax.trait_names hparse ht, htrait, hstruct⟩
  · obtain ⟨⟨s, hs, rfl⟩, -⟩ := hstruct (Decl.isInherent_iff.mpr ⟨target, key, ho⟩)
    exact ⟨s.path, rfl, Syntax.struct_names hparse hs, htrait, hstruct⟩

/-- **What the path of a method-call finding means.** The suggested text can be read as a path. Where
the closure stands, it means the method that the closure calls exactly if no function has that path
and its front leads to the method. For a method of a struct's own impls that takes `self`, `&self` or
`&mut self`, the front does so unless it is the name of something built in. -/
theorem reportedMethodCall_path (hparse : Syntax.parse source = .ok p)
    (hcheck : check file p = .ok checked) (hclean : hasErrors checked.diagnostics = false)
    (hF : F ∈ checked.functions) (hplace : place ∈ F.walk) (hx : x ∈ candidates place)
    (hclosure : x = .closure node params ret (.methodCall call receiver method args))
    (hfinding : checkClosure checked.query x = .ok (some f))
    (hnamed : (∃ d path, checked.query.method? (.methodCall call receiver method args) = some d ∧
        d.traitPath? = some path) ∨
      ∃ path targs, (checked.query.typeOf receiver).stripRefs = .ok (.nominal path targs)) :
    ∃ declared b final r front ts, Gives (declare file p) {} () declared ∧ b ∈ declared.bodies ∧
      Visited (contextOf file (structNames p) declared b.selfType) x final ∧
      checked.tables.methods.lookup call.id = some r ∧
      f.replacement = some (Path.text (front ++ [method])) ∧
      lex (Path.text (front ++ [method])) = ⟨ts, none⟩ ∧
      Syntax.Reads Syntax.readExpr ts (.path (Syntax.extentOf ts) (front ++ [method])) []
        (Syntax.stopOf ts) [] ∧
      (Means (contextOf file (structNames p) declared b.selfType) (front ++ [method]) r.decl ↔
        declared.registry.getFree? (Path.text (front ++ [method])) = none ∧
          Owns (contextOf file (structNames p) declared b.selfType) front method r.decl) ∧
      (r.decl.isInherent = true → r.decl.selfMode ≠ some .typed →
        builtInOwner? b.selfType front = none →
        Owns (contextOf file (structNames p) declared b.selfType) front method r.decl) := by
  have hwalk : x ∈ checked.functions.flatMap Function.walk := by
    have hheld : Syntax.IsHeld x F.walk := ⟨by rw [hclosure]; rfl, place, hplace, hx⟩
    exact List.mem_flatMap.mpr ⟨F, hF, Syntax.IsHeld.mem_flatMap hheld⟩
  have hname := method_isName hparse hcheck hclean hF hplace hx hclosure
  -- the closure was checked in some body
  obtain ⟨-, declared, final, hdeclare, htables, hregistry, hv⟩ := check_visited hcheck
  obtain ⟨b, hb, hvisited⟩ := hv x hwalk
  rw [hclosure] at hfinding
  -- the finding is about a method with a receiver type and an owner
  obtain ⟨d, self, owner, hmethod, -, hself, howner, hf⟩ := checkClosure_owner hfinding
  obtain ⟨r, hr, rfl⟩ := Option.map_eq_some_iff.mp hmethod
  obtain ⟨hwords, hregular, hwell, -, targets, htargets, hresolve⟩ :=
    checked_methodCall hparse hcheck (body_mem_walk (hclosure ▸ hwalk)) hr
  -- the method was found by the search, on one step of the receiver's chain
  obtain ⟨steps, -, hres⟩ := Registry.resolveMethod_eq_ok hresolve
  obtain ⟨-, -, -, -, -, hat, -⟩ := Registry.resolveOn_eq_ok hres
  rw [← hregistry] at hat hresolve hwell
  have hnamed : (∃ path, r.decl.traitPath? = some path) ∨
      ∃ path targs, (checked.query.typeOf receiver).stripRefs = .ok (.nominal path targs) :=
    hnamed.imp_left fun ⟨d, path, hd, hpath⟩ =>
      ⟨path, Option.some.inj (hmethod.symm.trans hd) ▸ hpath⟩
  obtain ⟨front, rfl, hfront⟩ :=
    exists_frontOf hparse (traits_of_declare hdeclare) hat hregular howner hnamed
  -- so the suggested text is a path of names, which the parser reads
  obtain ⟨hne, hnames⟩ := hfront.written
  have hpath : Path.Written (front ++ [method]) :=
    ⟨List.concat_ne_nil method front,
      List.forall_mem_append.mpr ⟨hnames, List.forall_mem_singleton.mpr hname⟩⟩
  obtain ⟨ts, hlex, hreads⟩ := path_reads hpath
  refine ⟨declared, b, final, r, front, ts, hdeclare, hb, hvisited, hr, ?_, hlex, hreads, ?_, ?_⟩
  · rw [hf, Syntax.Path.text_concat hne]
  · rw [means_iff hne, itemOf_iff hat fun path ho _ => ?_]
    · refine or_iff_right fun hfree => ?_
      -- a method is no function
      have ho := (Registry.getFree?_mem hfree).2
      obtain ⟨_, ho', -⟩ | ⟨_, _, ho', -⟩ := hat.item <;> nomatch ho.symm.trans ho'
    · obtain ⟨rfl, hmem⟩ := hfront.ofTrait path ho
      exact findTrait?_text hmem
  · intro hown hmode hbuiltIn
    obtain ⟨hstruct, hshape, targs, hstrip⟩ := hfront.ofStruct hown
    exact owns_untyped hwords hregular htargets hwell hresolve hself hown hshape hmode hstrip
      (ownerType?_struct rfl hstruct hbuiltIn)

/-- A program that calls `each(|u| u.m())` where `u` is a `&U`, the struct `U` derefs to `S`, and `m`
is a method of `S` that asks for a `&U`. -/
def unrelatedOwner : String :=
  "struct S;\nstruct U -> S;\nimpl S \x7b fn m(self: &U) -> i32; \x7d\n"
    ++ "fn each(f: fn(&U) -> i32);\nfn main() \x7b\n  each(|u| u.m());\n\x7d\n"

/-- Whether an expression is a closure that calls a method on a struct, or a reference to one. -/
def callsOnStruct (q : Query) (x : Expr) : Bool :=
  match x with
  | .closure _ _ _ (.methodCall _ receiver _ _) =>
    match (q.typeOf receiver).stripRefs with
    | .ok (.nominal ..) => true
    | _ => false
  | _ => false

theorem eq_of_callsOnStruct {q : Query} (h : callsOnStruct q x = true) :
    ∃ node params ret call receiver method args path targs,
      x = .closure node params ret (.methodCall call receiver method args) ∧
        (q.typeOf receiver).stripRefs = .ok (.nominal path targs) := by
  unfold callsOnStruct at h
  split at h
  · split at h
    · next ht => exact ⟨_, _, _, _, _, _, _, _, _, rfl, ht⟩
    · exact absurd h Bool.false_ne_true
  · exact absurd h Bool.false_ne_true

/-- **A method that asks for more than its own type may be suggested under another's name**: the
finding for `|u| u.m()` says `U::m`, which means nothing, since `m` is an item of `S`. -/
theorem unrelatedOwner_breaks : ∃ p checked x f call declared b r,
    Syntax.parse unrelatedOwner = .ok p ∧
    check none p = .ok checked ∧ checked.diagnostics = [] ∧
    checkClosure checked.query x = .ok (some f) ∧ f.replacement = some "U::m" ∧
    checked.tables.methods.lookup call = some r ∧
    Gives (declare none p) {} () declared ∧ b ∈ declared.bodies ∧
    ¬ Means (contextOf none (structNames p) declared b.selfType) ["U", "m"] r.decl ∧
    ¬ (declared.registry.getFree? "U::m" = none ∧
      Owns (contextOf none (structNames p) declared b.selfType) ["U"] "m" r.decl) := by
  have htest : ((checkedSource? none unrelatedOwner).any fun c => c.diagnostics.isEmpty &&
      reports c fun x f => callsOnStruct c.query x && f.replacement == some "U::m") = true := by
    decide +kernel
  -- no body of the program gives the path a meaning
  have hunmeant : ((Syntax.parse unrelatedOwner).toOption.any fun p =>
      ((declare none p {}).toOption.any fun d => d.2.bodies.all fun b =>
        (meaning? (contextOf none (structNames p) d.2 b.selfType) ["U", "m"]).isNone)) = true := by
    decide +kernel
  obtain ⟨checked, hsource, htest⟩ := (Option.any_eq_true _ _).mp htest
  obtain ⟨hclean, hreports⟩ := Bool.and_eq_true_iff.mp htest
  have hclean := List.isEmpty_iff.mp hclean
  obtain ⟨F, hF, place, hplace, x, hx, f, hf, htest⟩ := exists_of_reports hreports
  obtain ⟨hcalls, htext⟩ := Bool.and_eq_true_iff.mp htest
  obtain ⟨node, params, ret, call, receiver, method, args, path, targs, hclosure, hstruct⟩ :=
    eq_of_callsOnStruct hcalls
  obtain ⟨p, hparse, hcheck⟩ := checkedSource?_eq_some.mp hsource
  obtain ⟨declared, b, final, r, front, ts, hdeclare, hb, -, hr, hreplacement, hlex, hreads, hmeans, -⟩ :=
    reportedMethodCall_path hparse hcheck (by rw [hclean]; rfl) hF hplace hx hclosure hf
      (.inr ⟨path, targs, hstruct⟩)
  have htext : Path.text (front ++ [method]) = "U::m" :=
    Option.some.inj (hreplacement.symm.trans (eq_of_beq htext))
  -- the suggested text is read in one way only
  have hsegments : front ++ [method] = ["U", "m"] := by
    have hU : IsName "U" := ⟨'U', [], rfl, by decide, nofun, by decide⟩
    have hm : IsName "m" := ⟨'m', [], rfl, by decide, nofun, by decide⟩
    have hwritten : Path.Written ["U", "m"] :=
      ⟨nofun, List.forall_mem_cons.mpr ⟨hU, List.forall_mem_singleton.mpr hm⟩⟩
    have hlex : lex (Path.text ["U", "m"]) = ⟨ts, none⟩ := by
      rw [← hlex, htext]
      rfl
    exact eq_of_path_reads hwritten hlex hreads
  obtain ⟨rfl, rfl⟩ : front = ["U"] ∧ method = "m" :=
    have hsplit : front ++ [method] = ["U"] ++ ["m"] := hsegments
    (List.append_inj' hsplit rfl).imp_right List.singleton_inj.mp
  have hnothing : ¬ Means (contextOf none (structNames p) declared b.selfType) ["U", "m"] r.decl := by
    intro h
    obtain ⟨p', hp', hunmeant⟩ := (Option.any_eq_true _ _).mp hunmeant
    obtain rfl := Except.ok.inj (hparse.symm.trans (toOption_eq_some.mp hp'))
    obtain ⟨d, hd, hunmeant⟩ := (Option.any_eq_true _ _).mp hunmeant
    obtain rfl := Except.ok.inj (Eq.trans (Eq.symm hdeclare) (toOption_eq_some.mp hd))
    have hnone := List.all_eq_true.mp hunmeant b hb
    rw [h.meaning?] at hnone
    nomatch hnone
  exact ⟨p, checked, x, f, call.id, declared, b, r, hparse, hcheck, hclean, hf, htext ▸ hreplacement, hr,
    hdeclare, hb, hnothing, fun h => hnothing (hmeans.mpr h)⟩

end Eta

end ClosureLint
