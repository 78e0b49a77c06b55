import ClosureLint.Proofs.Checking.Filing
import ClosureLint.Proofs.Checking.Methods
import ClosureLint.Proofs.Totality

/-!
# The results are complete

Checking goes on behind an error: the arguments of a call are checked even when there are too many of
them, when what is called is not known, or when the method is not found. So every expression of a
checked body has a type, and a lint never finds one missing.

* `Checked.Complete` — the results say something about each expression, and about nothing else.
* `check_complete` — they do for every program that was read.
* `failingCalls_complete` — one whose calls go wrong in each of these ways, for instance.
-/

namespace ClosureLint.Typing

open ClosureLint.Core

/-- The results say something about each expression of the bodies, and about nothing else. -/
structure Checked.Complete (c : Checked) : Prop where
  /-- Each expression is given a type, once, and nothing else is given one. -/
  types : (c.tables.types.map Prod.fst).Perm ((c.functions.flatMap Function.walk).map Expr.id)
  /-- No type that was given is overwritten. -/
  once : (c.tables.types.map Prod.fst).Nodup
  /-- The type of an expression is what its own check answered. -/
  answered : ∀ x ∈ c.functions.flatMap Function.walk, ∃ context expected before t after,
    context.registry = c.registry ∧ Gives (checkExpr context x expected) before t after ∧
      c.tables.types.lookup x.id = some t ∧ c.query.typeOf x = t
  adjusted : ∀ i ∈ c.tables.adjusted, ∃ x ∈ c.functions.flatMap Function.walk, x.id = i
  methods : ∀ m ∈ c.tables.methods, ∃ node receiver method args,
    .methodCall node receiver method args ∈ c.functions.flatMap Function.walk ∧ node.id = m.1
  paths : ∀ m ∈ c.tables.paths, ∃ node segments,
    .path node segments ∈ c.functions.flatMap Function.walk ∧ node.id = m.1

theorem exists_of_isMethodCall {e : Expr} (h : e.isMethodCall = true) :
    ∃ node receiver method args, e = .methodCall node receiver method args := by
  cases e with
  | methodCall node receiver method args => exact ⟨node, receiver, method, args, rfl⟩
  | _ => nomatch h

theorem exists_of_isPath {e : Expr} (h : e.isPath = true) : ∃ node segments, e = .path node segments := by
  cases e with
  | path node segments => exact ⟨node, segments, rfl⟩
  | _ => nomatch h

/-- **The results of a program that was read are complete**, whatever errors it has. -/
theorem check_complete {source : String} {p : Syntax.Program} (h : Syntax.parse source = .ok p)
    (file : Option String) : ∃ checked, check file p = .ok checked ∧ checked.Complete := by
  obtain ⟨checked, hcheck⟩ := check_succeeds h file
  refine ⟨checked, hcheck, ?_⟩
  obtain ⟨⟨last, hnumbered⟩, declared, final, -, htables, hregistry, hvisited⟩ := check_visited hcheck
  obtain ⟨declared', final', -, hbodies, he⟩ := check_eq_ok hcheck
  have hfinal : final'.tables = checked.tables := by rw [he]
  -- one induction over the bodies says what each table holds
  have hcovered := hfinal ▸ checkBodies_covers _ hbodies fun _ hx => hx
  have htypes := hcovered.types
  rw [List.map_nil, List.append_nil] at htypes
  refine ⟨htypes, ?once, ?answered, ?adjusted, ?methods, ?paths⟩
  case once =>
    have hdistinct : ((checked.functions.flatMap Function.walk).map Expr.id).Nodup :=
      List.pairwise_map.mpr (Distinct.of_numbered hnumbered)
    exact htypes.nodup_iff.mpr hdistinct
  case answered =>
    intro x hx
    obtain ⟨b, -, hv⟩ := hvisited x hx
    obtain ⟨-, hg, -, hagree⟩ := hv
    have hlookup := (hagree.types _ (among_of_mem x.mem_walk_self)).trans (checkExpr_type hg)
    rw [htables] at hlookup
    exact ⟨_, _, _, _, _, hregistry, hg, hlookup, typeOf_of_lookup hlookup⟩
  case adjusted =>
    exact fun i hi => (hcovered.adjusted i hi).resolve_left List.not_mem_nil
  case methods =>
    intro m hm
    obtain ⟨x, hx, hid⟩ := (hcovered.methods m hm).resolve_left List.not_mem_nil
    obtain ⟨hmem, hcall⟩ := List.mem_filter.mp hx
    obtain ⟨node, receiver, method, args, rfl⟩ := exists_of_isMethodCall hcall
    exact ⟨node, receiver, method, args, hmem, hid⟩
  case paths =>
    intro m hm
    obtain ⟨x, hx, hid⟩ := (hcovered.paths m hm).resolve_left List.not_mem_nil
    obtain ⟨hmem, hpath⟩ := List.mem_filter.mp hx
    obtain ⟨node, segments, rfl⟩ := exists_of_isPath hpath
    exact ⟨node, segments, hmem, hid⟩

/-- A program with a call of too many arguments, one of which calls an unknown function, with a call
of a method that does not exist, and with one that does. -/
def failingCalls : String :=
  "struct S;\nimpl S \x7b fn m(&self, a: i32) -> i32; \x7d\nfn f(a: i32) -> i32;\n"
    ++ "fn main(s: S) \x7b\n  f(1, g(2));\n  s.lost(f(3));\n  s.m(f(4));\n\x7d\n"

/-- **Nothing is left out behind an error.** -/
theorem failingCalls_complete : ∃ p checked, Syntax.parse failingCalls = .ok p ∧
    check none p = .ok checked ∧ checked.diagnostics.length = 3 ∧ checked.tables.types.length = 16 ∧
      checked.Complete := by
  have htest : ((checkedSource? none failingCalls).any fun c =>
      c.diagnostics.length = 3 ∧ c.tables.types.length = 16) = true := by decide +kernel
  obtain ⟨checked, hsource, htest⟩ := (Option.any_eq_true _ _).mp htest
  obtain ⟨herrors, htypes⟩ := of_decide_eq_true htest
  obtain ⟨p, hparse, hcheck⟩ := checkedSource?_eq_some.mp hsource
  obtain ⟨checked', hcheck', hcomplete⟩ := check_complete hparse none
  obtain rfl := Except.ok.inj (hcheck.symm.trans hcheck')
  exact ⟨p, checked, hparse, hcheck, herrors, htypes, hcomplete⟩

end ClosureLint.Typing
