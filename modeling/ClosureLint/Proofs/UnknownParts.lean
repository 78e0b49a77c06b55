import Mathlib.Data.List.Forall2
import ClosureLint.Proofs.Types.Every
import ClosureLint.Proofs.Types.Legible
import ClosureLint.Proofs.Types.WellFormed

/-!
# What is unknown in the meaning of a written type

A path that means nothing is reported, and leaves a part of the type unknown. Nothing else is reported,
and nothing else leaves a part unknown. So diagnostics and unknown parts belong together one by one, and
both come in the order in which the type is written, because the meaning of what is written stands in the
meaning of the whole where it stands in the writing.

* `Address`, `Ty.part?`, `TypeExpr.part?` — the parts of types and of written types.
* `Ty.unknowns` — where a type is unknown, from left to right.
* `TypeScope.Lacks` — the paths that mean nothing, each with the reason.
* `resolveType_inv` — the three things that a written type can come to.
* `unknowns_reported` — **each unknown part has its diagnostic**.
-/

namespace ClosureLint

open ClosureLint.Syntax (Path TypeExpr)

/-- The way to a part: the numbers of the parts that it goes into, counted from 0, the outermost
first. -/
abbrev Address := List Nat

/-! ### Parts of types -/

namespace Ty

variable {t : Ty} {ts us : List Ty} {i : Nat} {address : Address}

/-- The part of a type at an address. -/
def part? (t : Ty) : Address → Option Ty
  | [] => some t
  | i :: rest => t.params[i]?.bind fun u => u.part? rest

mutual

/-- The addresses of the unknown parts of a type, from left to right. -/
def unknowns : Ty → List Address
  | ⟨k, _, ps, _, _, _⟩ => (if k = .unknown then [[]] else []) ++ unknownsFrom 0 ps

/-- Those in several types that have the numbers from `i` on. -/
def unknownsFrom (i : Nat) : List Ty → List Address
  | [] => []
  | t :: ts => t.unknowns.map (i :: ·) ++ unknownsFrom (i + 1) ts

end

theorem unknowns_def :
    t.unknowns = (if t.kind = .unknown then [[]] else []) ++ unknownsFrom 0 t.params := by
  cases t
  rfl

theorem unknowns_of_ne (h : t.kind ≠ .unknown) : t.unknowns = unknownsFrom 0 t.params := by
  rw [unknowns_def, if_neg h, List.nil_append]

theorem unknownsFrom_append :
    unknownsFrom i (ts ++ us) = unknownsFrom i ts ++ unknownsFrom (i + ts.length) us := by
  induction ts generalizing i with
  | nil => rfl
  | cons t ts ih =>
    rw [List.cons_append, unknownsFrom, unknownsFrom, ih, List.append_assoc, List.length_cons,
      Nat.add_right_comm, Nat.add_assoc]

theorem unknownsFrom_eq_nil : unknownsFrom i ts = [] ↔ ∀ t ∈ ts, t.unknowns = [] := by
  induction ts generalizing i with
  | nil => exact ⟨fun _ => List.forall_mem_nil _, fun _ => rfl⟩
  | cons t ts ih =>
    rw [unknownsFrom, List.append_eq_nil_iff, List.map_eq_nil_iff, ih, List.forall_mem_cons]

theorem mem_unknownsFrom : address ∈ unknownsFrom i ts ↔
    ∃ k t rest, address = (i + k) :: rest ∧ ts[k]? = some t ∧ rest ∈ t.unknowns := by
  induction ts generalizing i with
  | nil => simp [unknownsFrom]
  | cons t ts ih =>
    rw [unknownsFrom, List.mem_append, List.mem_map, ih]
    constructor
    -- in the first of them, or in a later one, whose index is one more
    · rintro (⟨rest, hrest, rfl⟩ | ⟨k, u, rest, rfl, hu, hrest⟩)
      · exact ⟨0, t, rest, rfl, rfl, hrest⟩
      · exact ⟨k + 1, u, rest, by rw [Nat.add_right_comm, Nat.add_assoc], hu, hrest⟩
    · rintro ⟨- | k, u, rest, rfl, hu, hrest⟩
      · obtain rfl := Option.some.inj hu
        exact .inl ⟨rest, hrest, rfl⟩
      · exact .inr ⟨k, u, rest, by rw [Nat.add_right_comm, Nat.add_assoc], hu, hrest⟩

/-- **All unknown parts** are listed. -/
theorem mem_unknowns : (t : Ty) → ∀ {address : Address},
    address ∈ t.unknowns ↔ ∃ u, t.part? address = some u ∧ u.kind = .unknown := by
  refine of_parts fun t ih address => ?_
  rw [unknowns_def, List.mem_append, mem_unknownsFrom]
  -- the whole type is the unknown part, or the part is inside of one of its own
  cases address with
  | nil =>
    constructor
    · rintro (h | ⟨k, u, rest, h, -⟩)
      · split at h
        · next hk => exact ⟨t, rfl, hk⟩
        · cases h
      · cases h
    · rintro ⟨u, hu, hk⟩
      obtain rfl := Option.some.inj hu
      rw [if_pos hk]
      exact .inl (List.mem_singleton_self _)
  | cons i rest =>
    have hpart : t.part? (i :: rest) = t.params[i]?.bind fun u => u.part? rest := rfl
    rw [hpart]
    constructor
    · rintro (h | ⟨k, u, rest', h, hu, hrest⟩)
      · split at h
        · cases List.mem_singleton.mp h
        · cases h
      · rw [Nat.zero_add] at h
        obtain ⟨rfl, rfl⟩ := List.cons.inj h
        rw [hu]
        exact (ih u (List.mem_of_getElem? hu)).mp hrest
    · rintro ⟨v, hv, hk⟩
      obtain ⟨u, hu, hv⟩ := Option.bind_eq_some_iff.mp hv
      exact .inr ⟨i, u, rest, by rw [Nat.zero_add], hu,
        (ih u (List.mem_of_getElem? hu)).mpr ⟨v, hv, hk⟩⟩

theorem unknownsFrom_ascending (h : ∀ t ∈ ts, t.unknowns.Pairwise (· < ·)) :
    (unknownsFrom i ts).Pairwise (· < ·) := by
  induction ts generalizing i with
  | nil => exact .nil
  | cons t ts ih =>
    obtain ⟨ht, hts⟩ := List.forall_mem_cons.mp h
    refine List.pairwise_append.mpr ⟨?_, ih hts, ?_⟩
    · exact List.pairwise_map.mpr (ht.imp fun h => List.cons_lt_cons_iff.mpr (.inr ⟨rfl, h⟩))
    -- addresses in the first type come before those in later ones
    · intro a ha b hb
      obtain ⟨rest, -, rfl⟩ := List.mem_map.mp ha
      obtain ⟨k, u, rest', rfl, -⟩ := mem_unknownsFrom.mp hb
      exact List.cons_lt_cons_iff.mpr (.inl (by omega))

/-- **They are listed from left to right**, each once. -/
theorem unknowns_ascending : (t : Ty) → t.unknowns.Pairwise (· < ·) := by
  refine of_parts fun t ih => ?_
  rw [unknowns_def]
  refine List.pairwise_append.mpr ⟨?_, unknownsFrom_ascending ih, ?_⟩
  · split
    · exact List.pairwise_singleton _ _
    · exact .nil
  -- the whole comes before its parts
  · intro a ha b hb
    obtain ⟨k, u, rest, rfl, -⟩ := mem_unknownsFrom.mp hb
    split at ha
    · rw [List.mem_singleton.mp ha]
      exact List.nil_lt_cons _ _
    · cases ha

/-- A type is known if no part of it is unknown. -/
theorem unknowns_eq_nil : (t : Ty) → (t.unknowns = [] ↔ t.Known) := by
  refine of_parts fun t ih => ?_
  have hparts : unknownsFrom 0 t.params = [] ↔ ∀ u ∈ t.params, u.Known :=
    unknownsFrom_eq_nil.trans (forall₂_congr ih)
  rw [unknowns_def, List.append_eq_nil_iff, hparts]
  constructor
  · rintro ⟨hkind, hknown⟩
    refine .intro (fun hk => ?_) hknown
    rw [if_pos hk] at hkind
    cases hkind
  · exact fun h => ⟨if_neg h.kind, h.parts⟩

end Ty

/-! ### Parts of written types -/

namespace Syntax

/-- The written types that the parts of a written type's meaning come from. -/
def TypeExpr.parts : TypeExpr → List TypeExpr
  | .named _ _ args => args
  | .ref _ _ inner => [inner]
  | .array _ elem _ | .slice _ elem => [elem]
  | .tuple _ elems => elems
  | .fnPtr _ _ params none => params
  | .fnPtr _ _ params (some ret) => params ++ [ret]

/-- What is written at an address. -/
def TypeExpr.part? (e : TypeExpr) : Address → Option TypeExpr
  | [] => some e
  | i :: rest => e.parts[i]?.bind fun p => p.part? rest

mutual

/-- What holds of a written type when it holds of its parts holds of every written type. -/
theorem TypeExpr.of_parts {P : TypeExpr → Prop} (h : ∀ e : TypeExpr, (∀ p ∈ e.parts, P p) → P e) :
    (e : TypeExpr) → P e
  | .named _ _ args => h _ (TypeExpr.all_of_parts h args)
  | .ref _ _ inner => h _ (List.forall_mem_singleton.mpr (TypeExpr.of_parts h inner))
  | .array _ elem _ | .slice _ elem =>
    h _ (List.forall_mem_singleton.mpr (TypeExpr.of_parts h elem))
  | .tuple _ elems => h _ (TypeExpr.all_of_parts h elems)
  | .fnPtr _ _ params none => h _ (TypeExpr.all_of_parts h params)
  | .fnPtr _ _ params (some ret) =>
    h _ (List.forall_mem_append.mpr ⟨TypeExpr.all_of_parts h params,
      List.forall_mem_singleton.mpr (TypeExpr.of_parts h ret)⟩)

theorem TypeExpr.all_of_parts {P : TypeExpr → Prop}
    (h : ∀ e : TypeExpr, (∀ p ∈ e.parts, P p) → P e) : (es : List TypeExpr) → ∀ e ∈ es, P e
  | [] => List.forall_mem_nil _
  | e :: es => List.forall_mem_cons.mpr ⟨TypeExpr.of_parts h e, TypeExpr.all_of_parts h es⟩

end

end Syntax

/-! ### Paths without a meaning -/

/-- The paths that mean nothing in a scope, with the reasons: `Self` where it stands for no type, and
what names no declared struct. With something between its angle brackets every path is a struct's. -/
inductive TypeScope.Lacks (s : TypeScope) : Path → List TypeExpr → Problem → Prop
  | self : s.selfType = none → Lacks s ["Self"] [] .selfOutsideImpl
  | struct {path : Path} {args : List TypeExpr} : (args = [] → Plain path) →
    s.names.find? path = none → Lacks s path args (.unknownType path.text)

variable {s : TypeScope} {e : TypeExpr} {es : List TypeExpr} {path : Path} {args : List TypeExpr}

theorem lacks_of_selfMissing (h : s.builtIn path (!args.isEmpty) = .selfMissing) :
    s.Lacks path args .selfOutsideImpl := by
  unfold TypeScope.builtIn at h
  split at h
  · next hargs =>
    split at h
    · next hname =>
      split at h
      · nomatch h
      · next hself =>
        -- `Self` with arguments is no built-in type
        obtain rfl : args = [] := by simpa using hargs
        subst hname
        exact .self hself
    · split at h <;> nomatch h
  · nomatch h

theorem lacks_of_find? (h : s.builtIn path (!args.isEmpty) = .none)
    (hfind : s.names.find? path = none) : s.Lacks path args (.unknownType path.text) := by
  refine .struct (fun hargs => ?_) hfind
  subst hargs
  exact plain_of_builtIn h

/-! ### What a written type comes to -/

theorem resolveTypes_append (as bs : List TypeExpr) : resolveTypes s (as ++ bs)
    = ((resolveTypes s as).1 ++ (resolveTypes s bs).1, (resolveTypes s as).2 ++ (resolveTypes s bs).2) := by
  induction as with
  | nil => rfl
  | cons a as ih =>
    rw [List.cons_append, resolveTypes_cons, resolveTypes_cons, ih, List.append_assoc]
    rfl

/-- The meaning of a written type is made of the meanings of its parts, behind which a function that
is written without a result has the unit type, and their diagnostics are all that it has. -/
structure MadeOfParts (s : TypeScope) (e : TypeExpr) : Prop where
  kind : (resolveType s e).1.kind ≠ .unknown
  params : ∃ result, (resolveType s e).1.params = (resolveTypes s e.parts).1 ++ result ∧
    ∀ t ∈ result, t.unknowns = []
  diagnostics : (resolveType s e).2 = (resolveTypes s e.parts).2

/-- **What a written type comes to**: a known type of which nothing is reported, or the unknown type,
or something made of what its parts come to. -/
theorem resolveType_inv (hs : ∀ t ∈ s.selfType, t.Known) (e : TypeExpr) :
    ((resolveType s e).1.Known ∧ (resolveType s e).2 = []) ∨
    (∃ l path args problem, e = .named l path args ∧ s.Lacks path args problem ∧
      resolveType s e = s.unresolved l problem) ∨
    MadeOfParts s e := by
  cases e with
  | named l path args =>
    rw [resolveType]
    split
    · next t ht =>
      refine .inl ⟨?_, rfl⟩
      -- `Self` and primitive types are known
      rcases builtIn_eq_type ht with hself | ⟨_, hprimitive⟩
      · exact hs t hself
      · have hsettled : t.Every (Kind.Settled true) := primitive?_settled hprimitive
        exact hsettled.mono fun _ hk => hk.1
    · next hself => exact .inr (.inl ⟨l, path, args, _, rfl, lacks_of_selfMissing hself, rfl⟩)
    · next hnone =>
      -- only a path that names a struct has its arguments looked at
      cases hfull : s.names.find? path with
      | none => exact .inr (.inl ⟨l, path, args, _, rfl, lacks_of_find? hnone hfull, rfl⟩)
      | some full =>
        have he : resolveType s (.named l path args)
            = (.nominal full (resolveTypes s args).1, (resolveTypes s args).2) := by
          rw [resolveType, hnone]
          dsimp only
          rw [hfull]
        refine .inr (.inr ⟨?_, ⟨[], ?_, List.forall_mem_nil _⟩, ?_⟩)
        · rw [he]
          exact (by decide : Kind.nominal ≠ .unknown)
        · rw [he, List.append_nil]
          rfl
        · rw [he]
          rfl
  -- one part, which is all that is reported of
  | ref | array | slice =>
    refine .inr (.inr ⟨?_, ⟨[], rfl, List.forall_mem_nil _⟩, (List.append_nil _).symm⟩)
    intro hk
    cases hk
  | tuple =>
    refine .inr (.inr ⟨?_, ⟨[], (List.append_nil _).symm, List.forall_mem_nil _⟩, rfl⟩)
    intro hk
    cases hk
  -- the parameters, and then the result, which is the unit type if it is not written
  | fnPtr _ _ params ret =>
    have hk : Kind.function ≠ .unknown := by decide
    cases ret with
    | none => exact .inr (.inr ⟨hk, ⟨[.unit], rfl, List.forall_mem_singleton.mpr rfl⟩, rfl⟩)
    | some ret =>
      refine .inr (.inr ⟨hk, ⟨[], ?_, List.forall_mem_nil _⟩, ?_⟩)
      · rw [TypeExpr.parts, resolveTypes_append, List.append_nil]
        rfl
      · rw [TypeExpr.parts, resolveTypes_append, resolveTypes_cons]
        exact congrArg ((resolveTypes s params).2 ++ ·) (List.append_nil _).symm

/-! ### Diagnostics and unknown parts -/

/-- A diagnostic is about what is written at an address of `e`, and there the meaning `t` of `e` is
unknown: it is a path that means nothing, reported where it stands and with the reason. -/
structure ReportedAt (s : TypeScope) (e : TypeExpr) (t : Ty) (address : Address) (d : Diagnostic) :
    Prop where
  unknown : t.part? address = some .unknown
  written : ∃ l path args problem, e.part? address = some (.named l path args) ∧
    s.Lacks path args problem ∧ d = problem.diagnostic (spanIn s.file l)

/-- The same for one of several written types, which have the numbers from `i` on. -/
def ReportedIn (s : TypeScope) (es : List TypeExpr) (ts : List Ty) (i : Nat) (address : Address)
    (d : Diagnostic) : Prop :=
  ∃ k rest e t, address = (i + k) :: rest ∧ es[k]? = some e ∧ ts[k]? = some t ∧
    ReportedAt s e t rest d

/-- The unknown parts of a written type's meaning are those that its diagnostics are about. -/
def Reports (s : TypeScope) (e : TypeExpr) : Prop :=
  List.Forall₂ (ReportedAt s e (resolveType s e).1) (resolveType s e).1.unknowns (resolveType s e).2

theorem reports_types (h : ∀ e ∈ es, Reports s e) (i : Nat) :
    List.Forall₂ (ReportedIn s es (resolveTypes s es).1 i)
      (Ty.unknownsFrom i (resolveTypes s es).1) (resolveTypes s es).2 := by
  induction es generalizing i with
  | nil => exact .nil
  | cons e es ih =>
    obtain ⟨he, hes⟩ := List.forall_mem_cons.mp h
    -- what is reported of the first comes first, and the addresses of the others begin with one more
    refine List.rel_append ?_ ?_
    · refine List.forall₂_map_left_iff.mpr (he.imp fun rest d hd => ?_)
      exact ⟨0, rest, e, _, rfl, rfl, rfl, hd⟩
    · refine (ih hes (i + 1)).imp ?_
      rintro _ d ⟨k, rest, p, t, rfl, hp, ht, hd⟩
      exact ⟨k + 1, rest, p, t, by rw [Nat.add_right_comm, Nat.add_assoc], hp, ht, hd⟩

/-- What is made of parts is unknown where they are. -/
theorem MadeOfParts.reports (h : MadeOfParts s e) (hparts : ∀ p ∈ e.parts, Reports s p) :
    Reports s e := by
  obtain ⟨result, hparams, hresult⟩ := h.params
  -- what stands behind the parts is known, and moves none of them
  have hunknowns : (resolveType s e).1.unknowns
      = Ty.unknownsFrom 0 (resolveTypes s e.parts).1 := by
    rw [Ty.unknowns_of_ne h.kind, hparams, Ty.unknownsFrom_append, Ty.unknownsFrom_eq_nil.mpr hresult,
      List.append_nil]
  unfold Reports
  rw [hunknowns, h.diagnostics]
  refine (reports_types hparts 0).imp ?_
  rintro _ d ⟨k, rest, p, t, rfl, hp, ht, hunknown, l, path, args, problem, hwritten, hd⟩
  -- the part of the meaning is the meaning of the part
  have ht' : (resolveType s e).1.params[k]? = some t := by
    rw [hparams, List.getElem?_append_left (List.getElem?_eq_some_iff.mp ht).1]
    exact ht
  rw [Nat.zero_add]
  refine ⟨?_, l, path, args, problem, ?_, hd⟩
  · rw [Ty.part?, ht']
    exact hunknown
  · rw [TypeExpr.part?, hp]
    exact hwritten

theorem resolveType_reports (hs : ∀ t ∈ s.selfType, t.Known) : (e : TypeExpr) → Reports s e := by
  refine TypeExpr.of_parts fun e ih => ?_
  obtain ⟨hknown, hnone⟩ | ⟨l, path, args, problem, rfl, hlacks, he⟩ | hparts := resolveType_inv hs e
  · unfold Reports
    rw [(Ty.unknowns_eq_nil _).mpr hknown, hnone]
    exact .nil
  · unfold Reports
    rw [he]
    exact .cons ⟨rfl, l, path, args, problem, rfl, hlacks, rfl⟩ .nil
  · exact hparts.reports ih

/-- **Each unknown part has its diagnostic.** Where `Self` stands for no type or for one that is known
in all parts, the diagnostics of a written type are as many as the unknown parts of its meaning, and in
the same order from left to right: each reports the path that is written where that part is, a path that
means nothing. So nothing is reported exactly if all parts are known. -/
theorem unknowns_reported (s : TypeScope) (hs : ∀ t ∈ s.selfType, t.Known) (e : TypeExpr) :
    List.Forall₂ (ReportedAt s e (resolveType s e).1) (resolveType s e).1.unknowns
        (resolveType s e).2 ∧
      (resolveType s e).2.length = (resolveType s e).1.unknowns.length ∧
      (resolveType s e).1.unknowns.Pairwise (· < ·) ∧
      (∀ address, address ∈ (resolveType s e).1.unknowns ↔
        (resolveType s e).1.part? address = some .unknown) ∧
      ((resolveType s e).2 = [] ↔ (resolveType s e).1.Known) := by
  have hreports := resolveType_reports hs e
  obtain ⟨hunknown, -⟩ := (List.forall₂_and_left _ _).mp (hreports.imp fun _ _ h => ⟨h.unknown, h⟩)
  refine ⟨hreports, hreports.length_eq.symm, Ty.unknowns_ascending _, fun address => ?_, ?_⟩
  · exact ⟨hunknown address, fun h => (Ty.mem_unknowns _).mpr ⟨_, h, rfl⟩⟩
  -- as many diagnostics as unknown parts, so there are none of the one if there are none of the other
  · rw [← Ty.unknowns_eq_nil, ← List.length_eq_zero_iff, ← List.length_eq_zero_iff,
      hreports.length_eq]

/-- A scope with one struct, in an impl for a reference to it. -/
def vectorScope : TypeScope := ⟨.ofList ["std::Vec"], none, some (.ref (.nominal "std::Vec"))⟩

/-- `Vec<Lost, fn(&Self, &[Gone<Missing>]) -> (Self<Self>, i32)>`, with the places of what it cannot
mean. -/
def nestedHoles : TypeExpr :=
  .named {} ["Vec"] [.named { startPos := some 4 } ["Lost"] [],
    .fnPtr {} false [.ref {} false (.named {} ["Self"] []),
        .ref {} false (.slice {} (.named { startPos := some 22 } ["Gone"] [.named {} ["Missing"] []]))]
      (some (.tuple {} [.named { startPos := some 42 } ["Self"] [.named {} ["Self"] []],
        .named {} ["i32"] []]))]

/-- **What stands in a path without a meaning** is not looked at, and `Self` takes no arguments. -/
theorem nestedHoles_reported :
    (∀ t ∈ vectorScope.selfType, t.Known) ∧
    (resolveType vectorScope nestedHoles).1.unknowns = [[0], [1, 1, 0, 0], [1, 2, 0]] ∧
    (resolveType vectorScope nestedHoles).2.map (fun d => (d.message, d.span.startPos)) =
      [("cannot find type `Lost` in this scope", some 4),
        ("cannot find type `Gone` in this scope", some 22),
        ("cannot find type `Self` in this scope", some 42)] ∧
    List.Forall₂ (ReportedAt vectorScope nestedHoles (resolveType vectorScope nestedHoles).1)
      [[0], [1, 1, 0, 0], [1, 2, 0]] (resolveType vectorScope nestedHoles).2 ∧
    ¬ (resolveType vectorScope nestedHoles).1.Known := by
  have hself : ∀ t ∈ vectorScope.selfType, t.Known := by
    rintro t ⟨⟩
    exact (Ty.unknowns_eq_nil _).mp rfl
  have hunknowns : (resolveType vectorScope nestedHoles).1.unknowns = [[0], [1, 1, 0, 0], [1, 2, 0]] := by
    decide +kernel
  obtain ⟨hreports, -, -, -, hsilent⟩ := unknowns_reported vectorScope hself nestedHoles
  rw [hunknowns] at hreports
  refine ⟨hself, hunknowns, by decide +kernel, hreports, fun hknown => ?_⟩
  exact absurd (hsilent.mpr hknown) (by decide +kernel)

end ClosureLint
