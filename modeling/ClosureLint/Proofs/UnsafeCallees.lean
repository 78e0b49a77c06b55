import ClosureLint.Proofs.Checking.Paths
import ClosureLint.Proofs.Checking.Registering
import ClosureLint.Proofs.DirectCalls
import ClosureLint.Proofs.MethodCalls

/-!
# No unsafe callee is suggested

Only unsafe code may call an unsafe function, and a closure that does is no value that the function
could stand for. Whether a callee is unsafe is told from the type of the callee, or from the type of
the method. Both are the type that the declaration was given, and that type has the flag that the
declaration was written with.

* `isUnsafe_itemType` — what `Self` is replaced by does not change the flag.
* `calledDecl?` — the declaration that the body of a closure calls.
* `reportedCallee_safe` — what a finding says about it.
-/

namespace ClosureLint

namespace Ty

/-- A function type keeps its flag when `Self` is replaced. -/
theorem isUnsafe_substSelf {t u : Ty} (h : t.kind = .function) :
    (t.substSelf u).isUnsafe = t.isUnsafe := by
  obtain ⟨k, name, ps, isMut, length, isUnsafe⟩ := t
  obtain rfl : k = .function := h
  rw [substSelf, if_neg fun h => Kind.noConfusion h.1]

/-- A function type that is not that of an unsafe function has no flag. -/
theorem isUnsafe_of_function {t : Ty} (h : t.kind = .function) (hsafe : t.isUnsafeFn = false) :
    t.isUnsafe = false := by
  simpa [isUnsafeFn, h] using hsafe

end Ty

namespace Eta

open ClosureLint.Core
open ClosureLint.Syntax (Path)
open ClosureLint.Typing

/-- The type of a path that means an item is a function type with the item's flag. -/
theorem isUnsafe_itemType {c : Context} {front : Path} {d : Decl} (h : d.type.kind = .function) :
    (itemType c front d).kind = .function ∧ (itemType c front d).isUnsafe = d.isUnsafe := by
  unfold itemType
  split
  · exact ⟨Ty.kind_substSelf_function h, Ty.isUnsafe_substSelf h⟩
  · exact ⟨h, rfl⟩

/-- What the body of a closure calls by itself. -/
def directCallee? : Expr → Option Expr
  | .closure _ _ _ (.call _ callee _) => some callee
  | _ => none

/-- The declaration that the body of a closure calls: what the path of its callee means, or its
method. -/
def calledDecl? (q : Query) : Expr → Option Decl
  | .closure _ _ _ (.call _ (.path n segments) _) => q.path? (.path n segments)
  | .closure _ _ _ (.methodCall n receiver method args) =>
    q.method? (.methodCall n receiver method args)
  | _ => none

variable {file : Option String} {p : Syntax.Program} {checked : Checked} {x : Expr} {f : Finding}

/-- The callee of a finding has no unsafe type. -/
theorem directCallee_safe (hf : checkClosure checked.query x = .ok (some f)) {callee : Expr}
    (hx : directCallee? x = some callee) : (checked.query.typeOf callee).isUnsafeFn = false := by
  unfold directCallee? at hx
  split at hx
  · obtain rfl := Option.some.inj hx
    exact (checkClosure_call hf).2.2.2.1
  · nomatch hx

/-- The declaration that a finding's body calls is registered, and no unsafe one. -/
theorem calledDecl_safe (hcheck : check file p = .ok checked)
    (hmem : x ∈ checked.functions.flatMap Function.walk)
    (hf : checkClosure checked.query x = .ok (some f)) {d : Decl}
    (hd : calledDecl? checked.query x = some d) :
    d.isUnsafe = false ∧ ∃ g, DeclaredBy p g d := by
  obtain ⟨⟨last, hn⟩, declared, final, hdeclare, htables, -, hv⟩ := check_visited hcheck
  have hby := declaredBy_of_declare hdeclare
  unfold calledDecl? at hd
  split at hd
  · next node params ret call n segments args =>
    -- the callee's type was made from the declaration
    have hcallee : .path n segments ∈ checked.functions.flatMap Function.walk := by
      obtain ⟨g, hg, hx⟩ := List.mem_flatMap.mp (body_mem_walk hmem)
      exact List.mem_flatMap.mpr
        ⟨g, hg, Function.walk_trans hx (List.mem_cons_of_mem _ List.mem_cons_self)⟩
    obtain ⟨b, -, hvisited⟩ := hv _ hcallee
    obtain ⟨hreg, t, hlookup, htype⟩ := hvisited.path (d := d) (by rw [htables]; exact hd)
    obtain ⟨g, hg⟩ := hby d hreg
    have htypeOf : checked.query.typeOf (.path n segments) = t :=
      typeOf_of_lookup (by rw [← hlookup, htables]; rfl)
    have hsafe : t.isUnsafeFn = false := htypeOf ▸ directCallee_safe hf rfl
    refine ⟨?_, g, hg⟩
    -- `Self` may have been replaced in it, which leaves `unsafe` as it was
    rcases htype with rfl | rfl
    · exact Ty.isUnsafe_of_function hg.kind hsafe
    · obtain ⟨hkind, hsame⟩ := isUnsafe_itemType hg.kind
      exact hsame ▸ Ty.isUnsafe_of_function hkind hsafe
  · next node params ret n receiver method args =>
    -- a method's declaration is looked at by the detector itself
    obtain ⟨d', self, owner, hmethod, hsafe, -⟩ := checkClosure_owner hf
    obtain rfl := Option.some.inj (hmethod.symm.trans hd)
    obtain ⟨r, hr, rfl⟩ := Option.map_eq_some_iff.mp hd
    have hcall := body_mem_walk hmem
    obtain ⟨b, -, hvisited⟩ := hv _ hcall
    obtain ⟨_, -, hresolve, -⟩ := hvisited.methodCall (r := r)
      ((Distinct.of_numbered hn).sublist (Function.walk_sublist hcall)) (by rw [htables]; exact hr)
    obtain ⟨steps, -, hres⟩ := Registry.resolveMethod_eq_ok hresolve
    obtain ⟨-, -, -, -, -, hat, -⟩ := Registry.resolveOn_eq_ok hres
    obtain ⟨g, hg⟩ := hby _ hat.mem.1
    exact ⟨Ty.isUnsafe_of_function hg.kind hsafe, g, hg⟩
  · nomatch hd

/-- **An unsafe callee is never suggested**, whether the program checks or not. What a reported closure
calls is not declared `unsafe`, where it is known to be a declaration, and a callee has no unsafe type,
where the closure calls one directly. -/
theorem reportedCallee_safe (hcheck : check file p = .ok checked)
    (hmem : x ∈ checked.functions.flatMap Function.walk)
    (hf : checkClosure checked.query x = .ok (some f)) :
    (∀ d, calledDecl? checked.query x = some d →
      d.isUnsafe = false ∧ ∃ g, DeclaredBy p g d ∧ g.isUnsafe = false) ∧
      ∀ callee, directCallee? x = some callee →
        (checked.query.typeOf callee).isUnsafeFn = false := by
  refine ⟨fun d hd => ?_, fun callee hx => directCallee_safe hf hx⟩
  obtain ⟨hsafe, g, hg⟩ := calledDecl_safe hcheck hmem hf hd
  exact ⟨hsafe, g, hg, hg.isUnsafe ▸ hsafe⟩

/-- A program with one closure for a safe function and one for an unsafe function. -/
def mixedCallees : String :=
  "fn safe(a: i32) -> i32;\nunsafe fn raw(a: i32) -> i32;\nfn apply(f: fn(i32) -> i32);\n"
    ++ "fn main() \x7b\n  apply(|x| raw(x));\n  apply(|x| safe(x));\n\x7d\n"

/-- Some closure is reported that calls a function by its path. -/
def reportsPath (checked : Checked) : Bool :=
  (checked.functions.flatMap Function.walk).any fun x =>
    match checkClosure checked.query x with
    | .ok (some _) => (calledDecl? checked.query x).isSome
    | _ => false

theorem exists_of_reportsPath {checked : Checked} (h : reportsPath checked = true) :
    ∃ x f d, x ∈ checked.functions.flatMap Function.walk ∧
      checkClosure checked.query x = .ok (some f) ∧ calledDecl? checked.query x = some d := by
  obtain ⟨x, hx, h⟩ := List.any_eq_true.mp h
  split at h
  · next f hf =>
    obtain ⟨d, hd⟩ := Option.isSome_iff_exists.mp h
    exact ⟨x, f, d, hx, hf, hd⟩
  · exact absurd h Bool.false_ne_true

/-- One of its closures is reported, and it does not call the unsafe function. -/
theorem mixedCallees_reported : ∃ p checked x f d g, Syntax.parse mixedCallees = .ok p ∧
    check none p = .ok checked ∧ x ∈ checked.functions.flatMap Function.walk ∧
      checkClosure checked.query x = .ok (some f) ∧ calledDecl? checked.query x = some d ∧
        DeclaredBy p g d ∧ g.isUnsafe = false := by
  have htest : ((checkedSource? none mixedCallees).any reportsPath) = true := by decide +kernel
  obtain ⟨checked, hsource, hreports⟩ := (Option.any_eq_true _ _).mp htest
  obtain ⟨x, f, d, hmem, hf, hd⟩ := exists_of_reportsPath hreports
  obtain ⟨p, hparse, hcheck⟩ := checkedSource?_eq_some.mp hsource
  obtain ⟨-, g, hg, hsafe⟩ := (reportedCallee_safe hcheck hmem hf).1 d hd
  exact ⟨p, checked, x, f, d, g, hparse, hcheck, hmem, hf, hd, hg, hsafe⟩

end Eta

end ClosureLint
