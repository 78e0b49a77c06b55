import ClosureLint.Proofs.Outcome
import ClosureLint.Registry.Resolve
import ClosureLint.Typing.TypeExpr

/-!
# Types that can be written

A description of a type may combine kinds and parts in any way. Those that come up in a program
are built as the written types are, from structs that the program declares.

* `Ty.Regular` — types built that way.
* `Ty.Regular.substSelf`, `Ty.Regular.of_derefChain` — what is derived from such types is built so too.
* `resolveType_regular` — the meaning of a written type is.
-/

namespace ClosureLint

namespace Ty

variable {names : String → Prop} {t s : Ty}

/-- A type built the way types are written, with structs among `names`. -/
inductive Regular (names : String → Prop) : Ty → Prop where
  | primitive {name : String} {t : Ty} : primitive? name = some t → Regular names t
  | unknown : Regular names unknown
  | selfParam : Regular names selfParam
  | ref {inner : Ty} {isMut : Bool} : Regular names inner → Regular names (.ref inner isMut)
  | array {elem : Ty} {length : Option Int} : Regular names elem →
    Regular names (.array elem length)
  | slice {elem : Ty} : Regular names elem → Regular names (.slice elem)
  | nominal {path : String} {args : List Ty} : names path → (∀ a ∈ args, Regular names a) →
    Regular names (.nominal path args)
  | function {params : List Ty} {ret : Ty} {isUnsafe : Bool} : (∀ p ∈ params, Regular names p) →
    Regular names ret → Regular names (.function params ret isUnsafe)
  | tuple {elems : List Ty} : (∀ e ∈ elems, Regular names e) → Regular names (.tuple elems)

/-- The built-in types have the name they are spelled with, no parts, and a kind of their own. -/
theorem primitive?_eq_some {name : String} (h : primitive? name = some t) :
    t = ⟨t.kind, name, [], false, none, false⟩ ∧
      t.kind ∈ [Kind.bool, .char, .str, .int, .uint, .float] := by
  unfold primitive? at h
  -- one branch for each group of spellings
  split at h
  · obtain rfl := Option.some.inj h
    exact ⟨rfl, by simp⟩
  · split at h
    · obtain rfl := Option.some.inj h
      exact ⟨rfl, by simp⟩
    · split at h
      · next hn =>
        obtain rfl := Option.some.inj h
        exact ⟨by rw [hn]; rfl, by simp [str]⟩
      · split at h
        · obtain rfl := Option.some.inj h
          exact ⟨rfl, by simp [int]⟩
        · split at h
          · obtain rfl := Option.some.inj h
            exact ⟨rfl, by simp⟩
          · split at h
            · obtain rfl := Option.some.inj h
              exact ⟨rfl, by simp⟩
            · nomatch h

namespace Regular

theorem unit : Regular names .unit := show Regular names (.tuple []) from .tuple nofun

/-- The struct of a type is one of the names. -/
theorem nominal_name {path : String} {args : List Ty} (h : Regular names (.nominal path args)) :
    names path := by
  generalize ht : Ty.nominal path args = t at h
  cases h with
  | primitive hp =>
    -- no built-in type is a struct
    have hkinds := (primitive?_eq_some hp).2
    rw [← ht] at hkinds
    exact absurd hkinds (by simp [Ty.nominal])
  | nominal hn _ =>
    obtain ⟨-, rfl, -⟩ := Ty.mk.inj ht
    exact hn
  | _ => nomatch ht

/-- The parts of a type are built so too. -/
theorem params (h : Regular names t) : ∀ p ∈ t.params, Regular names p := by
  cases h with
  | primitive hp =>
    rw [(primitive?_eq_some hp).1]
    exact nofun
  | unknown | selfParam => exact nofun
  | ref h | array h | slice h =>
    intro p hp
    rw [List.mem_singleton.mp hp]
    exact h
  | nominal _ h | tuple h => exact h
  | function hs hr =>
    intro p hp
    rcases List.mem_append.mp hp with hp | hp
    · exact hs p hp
    · rw [List.mem_singleton.mp hp]
      exact hr

/-- A reference has one part and nothing else besides its mutability. -/
theorem eq_ref (h : Regular names t) (hk : t.kind = .ref) :
    ∃ inner isMut, t = .ref inner isMut ∧ Regular names inner := by
  cases h with
  | primitive hp =>
    have := (primitive?_eq_some hp).2
    rw [hk] at this
    exact absurd this (by decide)
  | ref h => exact ⟨_, _, rfl, h⟩
  | _ => nomatch hk

theorem of_firstPart {p : Ty} (h : Regular names t) (hp : firstPart t.params = .ok p) :
    Regular names p := by
  refine h.params p ?_
  match t.params, hp with
  | q :: _, hp =>
    rw [← Except.ok.inj hp]
    exact List.mem_cons_self

/-- A use of a trait's item at such a type gives such types. -/
theorem substSelf (h : Regular names t) (hs : Regular names s) :
    Regular names (t.substSelf s) := by
  have hall : ∀ {ts : List Ty}, (∀ a ∈ ts, Regular names (a.substSelf s)) →
      ∀ a ∈ substSelfAll ts s, Regular names a := fun hts a ha => by
    rw [substSelfAll_eq_map] at ha
    obtain ⟨b, hb, rfl⟩ := List.mem_map.mp ha
    exact hts b hb
  induction h with
  | @primitive name t hp =>
    obtain ⟨ht, hk⟩ := primitive?_eq_some hp
    -- `Self` has a kind that no built-in type has
    have hself : t.substSelf s = t := by
      rw [ht, Ty.substSelf, if_neg fun h => ?_, substSelfAll]
      rw [h.1] at hk
      exact absurd hk (by decide)
    rw [hself]
    exact .primitive hp
  | unknown => exact .unknown
  | selfParam => exact hs
  | ref _ ih => exact .ref ih
  | array _ ih => exact .array ih
  | slice _ ih => exact .slice ih
  | nominal hn _ ih => exact .nominal hn (hall ih)
  | @function params ret isUnsafe _ _ ihs ih =>
    -- the result is the last part of a function and is replaced along with the others
    have hfn : (Ty.function params ret isUnsafe).substSelf s
        = .function (substSelfAll params s) (ret.substSelf s) isUnsafe := by
      change Ty.mk .function "fn" (substSelfAll (params ++ [ret]) s) false none isUnsafe = _
      rw [Ty.function, substSelfAll_eq_map, substSelfAll_eq_map, List.map_append, List.map_singleton]
    rw [hfn]
    exact .function (hall ihs) ih
  | tuple _ ih => exact .tuple (hall ih)

/-! ### Dereferencing -/

/-- The declared targets are such types. -/
def TargetsRegular (names : String → Prop) (targets : DerefTable) : Prop :=
  ∀ d ∈ targets, Regular names d.2

variable {targets : DerefTable}

theorem of_lookup {κ δ : Type} [BEq κ] {P : δ → Prop} {l : List (κ × δ)} (h : ∀ d ∈ l, P d.2)
    {x : κ} {v : δ} (hv : l.lookup x = some v) : P v := by
  induction l with
  | nil => nomatch hv
  | cons d l ih =>
    rw [List.lookup_cons] at hv
    split at hv
    · rw [← Option.some.inj hv]
      exact h d List.mem_cons_self
    · exact ih (fun d hd => h d (List.mem_cons_of_mem _ hd)) hv

theorem of_deref? (h : Regular names t) (ht : TargetsRegular names targets) {u : Ty}
    (hu : t.deref? targets = .ok (some u)) : Regular names u := by
  unfold deref? at hu
  split at hu
  · obtain ⟨p, hp, hu⟩ := bind_eq_ok.mp hu
    rw [← Option.some.inj (pure_eq_ok.mp hu)]
    exact h.of_firstPart hp
  · exact of_lookup ht (pure_eq_ok.mp hu)
  · nomatch pure_eq_ok.mp hu

theorem of_derefFrom (ht : TargetsRegular names targets) {fuel : Nat} {seen chain : List Ty}
    {cur : Ty} (hcur : Regular names cur) (hseen : ∀ u ∈ seen, Regular names u)
    (h : derefFrom targets fuel seen cur = .ok chain) : ∀ u ∈ chain, Regular names u := by
  -- on the steps that are left; every type so far is regular
  induction fuel generalizing seen cur with
  | zero =>
    rw [derefFrom] at h
    rw [← pure_eq_ok.mp h]
    exact hseen
  | succ fuel ih =>
    rw [derefFrom] at h
    obtain ⟨next, hnext, h⟩ := bind_eq_ok.mp h
    cases next with
    | none =>
      rw [← pure_eq_ok.mp h]
      exact hseen
    | some u =>
      have hu := hcur.of_deref? ht hnext
      dsimp only at h
      split at h
      · rw [← pure_eq_ok.mp h]
        exact hseen
      · refine ih hu (fun v hv => ?_) h
        rcases List.mem_append.mp hv with hv | hv
        · exact hseen v hv
        · rw [List.mem_singleton.mp hv]
          exact hu

/-- Every type that such a type derefs to. -/
theorem of_derefChain (h : Regular names t) (ht : TargetsRegular names targets) {chain : List Ty}
    (hc : t.derefChain targets = .ok chain) : ∀ u ∈ chain, Regular names u :=
  of_derefFrom ht h (fun u hu => by rw [List.mem_singleton.mp hu]; exact h) hc

end Regular

end Ty

/-! ### Written types -/

/-- What resolving a written type may use are such types. -/
structure TypeScope.Regular (names : String → Prop) (scope : TypeScope) : Prop where
  structs : ∀ path full, scope.names.find? path = some full → names full
  selfType : ∀ t, scope.selfType = some t → Ty.Regular names t

variable {names : String → Prop} {scope : TypeScope}

theorem builtIn_args (p : Syntax.Path) : scope.builtIn p true = .none := by
  unfold TypeScope.builtIn
  split
  · next h => cases h
  · rfl

/-- What is found among `Self` and the built-in types. -/
theorem builtIn_eq_type {p : Syntax.Path} {hasArgs : Bool} {t : Ty}
    (h : scope.builtIn p hasArgs = .type t) :
    scope.selfType = some t ∨ ∃ name, Ty.primitive? name = some t := by
  unfold TypeScope.builtIn at h
  split at h
  · split at h
    · split at h
      · next ht =>
        -- `Self`, where it means something
        obtain rfl := BuiltIn.type.inj h
        exact .inl ht
      · cases h
    · split at h
      · next name _ _ _ ht =>
        obtain rfl := BuiltIn.type.inj h
        exact .inr ⟨_, ht⟩
      · cases h
  · cases h

mutual

/-- **The meaning of a written type** is a type that can be written. -/
theorem resolveType_regular (h : scope.Regular names) : (e : Syntax.TypeExpr) →
    (resolveType scope e).1.Regular names
  | .named l path args => by
    rw [resolveType]
    split
    · next ht =>
      -- `Self` is what the scope says, every other built-in type is a primitive
      rcases builtIn_eq_type ht with hself | ⟨_, hprimitive⟩
      · exact h.selfType _ hself
      · exact .primitive hprimitive
    · exact .unknown
    · split
      · exact .unknown
      · next hfull => exact .nominal (h.structs _ _ hfull) (resolveTypes_regular h args)
  | .ref _ _ inner => .ref (resolveType_regular h inner)
  | .array _ elem _ => .array (resolveType_regular h elem)
  | .slice _ elem => .slice (resolveType_regular h elem)
  | .tuple _ elems => .tuple (resolveTypes_regular h elems)
  | .fnPtr _ _ params none => .function (resolveTypes_regular h params) .unit
  | .fnPtr _ _ params (some ret) =>
    .function (resolveTypes_regular h params) (resolveType_regular h ret)

theorem resolveTypes_regular (h : scope.Regular names) : (es : List Syntax.TypeExpr) →
    ∀ t ∈ (resolveTypes scope es).1, t.Regular names
  | [] => nofun
  | e :: es => List.forall_mem_cons.mpr ⟨resolveType_regular h e, resolveTypes_regular h es⟩

end

end ClosureLint
