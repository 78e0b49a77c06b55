import Mathlib.Data.List.Nodup
import ClosureLint.Proofs.Outcome
import ClosureLint.Registry.Basic

/-!
# Runs of registrations

Callables are filed in three indexes: functions by path, items of impls by the key of the type and
their name, items of traits by trait and name. Whatever calls are made, in whatever order, and
whichever of them fail, no two callables ever share a key, and no callable changes or goes away.

* `Registration` — a call of one of the five operations; `Registry.run` makes several of them, and
  `Registry.issued` are the declarations they give.
* `Lookup` — a question of one of the three indexes, and the key it asks for.
* `Registration.call_eq_ok` — all that a successful call does.
* `Registry.Sound` — what every call keeps.
* `Orderly`, `run_orderly` — what is true of every run.
-/

namespace ClosureLint

/-! ### Calls -/

/-- A call of one of the operations that register something. -/
inductive Registration where
  | free (path : String) (type : Ty)
  | inherent (target : Ty) (name : String) (type : Ty) (mode : Option SelfMode)
  | trait (path : String)
  | traitMethod (traitPath name : String) (type : Ty) (mode : Option SelfMode)
  | traitImpl (traitPath : String) (target : Ty)
deriving DecidableEq, Repr

namespace Registration

/-- Makes the call. It gives a declaration if it registers a callable. -/
def call (r : Registry) :
    Registration → Except (Failure RegistryError) (Option Decl × Registry)
  | free path type => (r.registerFree path type).map fun (d, r) => (some d, r)
  | inherent target name type mode =>
    (r.registerInherent target name type mode).map fun (d, r) => (some d, r)
  | trait path => (r.registerTrait path).map fun r => (none, r)
  | traitMethod traitPath name type mode =>
    (r.registerTraitMethod traitPath name type mode).map fun (d, r) => (some d, r)
  | traitImpl traitPath target => (r.registerTraitImpl traitPath target).map fun r => (none, r)

/-- The registry behind a call. A call that fails leaves it as it is. -/
def perform (r : Registry) (c : Registration) : Registry :=
  match c.call r with
  | .ok (_, r') => r'
  | .error _ => r

end Registration

namespace Registry

/-- The registry behind several calls. -/
def run (r : Registry) (cs : List Registration) : Registry := cs.foldl Registration.perform r

end Registry

/-! ### Look-ups -/

/-- A question of one of the three indexes. -/
inductive Lookup where
  | free (path : String)
  | inherent (target : Ty) (name : String)
  | traitMethod (traitPath name : String)
deriving DecidableEq, Repr

/-- The index under which a callable is filed, and the key. -/
inductive Key where
  | free (path : String)
  | inherent (implKey name : String)
  | traitMethod (traitPath name : String)
deriving DecidableEq, Repr

/-- The answer to a question. -/
def Registry.answer (r : Registry) : Lookup → Except Fault (Option Decl)
  | .free path => return r.getFree? path
  | .inherent target name => r.getInherent? target name
  | .traitMethod traitPath name => return r.getTraitMethod? traitPath name

/-- The key that a question asks for. -/
def Lookup.key : Lookup → Except Fault Key
  | .free path => return .free path
  | .inherent target name => return .inherent (← target.implKey) name
  | .traitMethod traitPath name => return .traitMethod traitPath name

/-- The question for what a call registers, if that is a callable. -/
def Registration.lookup? : Registration → Option Lookup
  | free path _ => some (.free path)
  | inherent target name _ _ => some (.inherent target name)
  | traitMethod traitPath name _ _ => some (.traitMethod traitPath name)
  | trait _ | traitImpl .. => none

/-- The key of a declaration. -/
def Decl.key (d : Decl) : Key :=
  match d.origin with
  | .free => .free d.path
  | .inherent _ implKey => .inherent implKey d.name
  | .traitItem traitPath => .traitMethod traitPath d.name

namespace Registry

variable {r r' : Registry} {d : Decl} {cs : List Registration}

/-- The declaration of a key. -/
def ofKey? (r : Registry) (k : Key) : Option Decl := r.decls.find? fun d => d.key = k

theorem getFree?_eq (path : String) : r.getFree? path = r.ofKey? (.free path) := by
  refine congrArg (r.decls.find? ·) (funext fun d => ?_)
  unfold Decl.key
  cases d.origin <;> simp

theorem getInherentByKey?_eq (implKey name : String) :
    r.getInherentByKey? implKey name = r.ofKey? (.inherent implKey name) := by
  refine congrArg (r.decls.find? ·) (funext fun d => ?_)
  unfold Decl.key
  cases d.origin <;> simp

theorem getTraitMethod?_eq (traitPath name : String) :
    r.getTraitMethod? traitPath name = r.ofKey? (.traitMethod traitPath name) := by
  refine congrArg (r.decls.find? ·) (funext fun d => ?_)
  unfold Decl.key
  cases d.origin <;> simp

/-- The registry `r'` is `r` with one more declaration, under the next number and a key that was free. -/
structure Adds (r : Registry) (d : Decl) (r' : Registry) : Prop where
  decls : r'.decls = r.decls ++ [d]
  id : d.id = r.nextId
  fresh : r.ofKey? d.key = none
  impls : r'.impls = r.impls

end Registry

namespace Registration

open Registry

variable {r r' : Registry} {d : Decl} {o : Option Decl}

/-- An implementation is recorded if its trait is there, and if it was not recorded before. -/
theorem call_traitImpl_eq_ok {traitPath : String} {target : Ty} :
    (traitImpl traitPath target).call r = .ok (o, r') ↔
      ∃ key, target.implKey = .ok key ∧ r.hasTrait traitPath = true ∧ (key, traitPath) ∉ r.impls ∧
        o = none ∧ r' = { r with impls := r.impls ++ [(key, traitPath)] } := by
  simp only [call, registerTraitImpl]
  cases hknown : r.hasTrait traitPath with
  | false => exact ⟨nofun, nofun⟩
  | true =>
    cases hkey : target.implKey with
    | error f => exact ⟨nofun, nofun⟩
    | ok key =>
      -- the text of the type only goes into the message
      change Except.map _ (if r.impls.contains (key, traitPath) then _ else _) = _ ↔ _
      split
      · next hmem =>
        constructor
        · intro h
          cases htext : target.text <;> rw [htext] at h <;> nomatch h
        · rintro ⟨_, hkey', -, hnew, -⟩
          cases hkey'
          exact absurd (List.contains_iff_mem.mp hmem) hnew
      · next hnew =>
        constructor
        · intro h
          obtain ⟨rfl, rfl⟩ := Prod.mk.inj (Except.ok.inj h)
          exact ⟨key, rfl, rfl, fun hmem => hnew (List.contains_iff_mem.mpr hmem), rfl, rfl⟩
        · rintro ⟨_, hkey', -, -, rfl, rfl⟩
          cases hkey'
          rfl

/-- **All that a successful call does**: it registers a callable under the key of its own question, or
else it leaves the callables alone and adds at most one implementation, which is new. -/
theorem call_eq_ok {c : Registration} (h : c.call r = .ok (o, r')) :
    (∃ d q, o = some d ∧ c.lookup? = some q ∧ q.key = .ok d.key ∧ Adds r d r') ∨
      o = none ∧ c.lookup? = none ∧ r'.decls = r.decls ∧
        (r'.impls = r.impls ∨ ∃ i, i ∉ r.impls ∧ r'.impls = r.impls ++ [i]) := by
  cases c with
  | free path type =>
    simp only [call, registerFree] at h
    split at h
    · nomatch h
    · next hfree =>
      obtain ⟨rfl, rfl⟩ := Prod.mk.inj (Except.ok.inj h)
      rw [getFree?_eq, Option.not_isSome_iff_eq_none] at hfree
      exact .inl ⟨_, _, rfl, rfl, rfl, rfl, rfl, hfree, rfl⟩
  | inherent target name type mode =>
    simp only [call, registerInherent] at h
    cases hkey : target.implKey with
    | error f => rw [hkey] at h; nomatch h
    | ok k =>
      rw [hkey] at h
      change Except.map _ (if (r.getInherentByKey? k name).isSome then _ else _) = _ at h
      split at h
      · cases htext : target.text <;> rw [htext] at h <;> nomatch h
      · next hfree =>
        obtain ⟨rfl, rfl⟩ := Prod.mk.inj (Except.ok.inj h)
        rw [getInherentByKey?_eq, Option.not_isSome_iff_eq_none] at hfree
        refine .inl ⟨_, _, rfl, rfl, ?_, rfl, rfl, hfree, rfl⟩
        rw [Lookup.key, hkey]
        rfl
  | trait path =>
    simp only [call, registerTrait] at h
    split at h
    · nomatch h
    · obtain ⟨rfl, rfl⟩ := Prod.mk.inj (Except.ok.inj h)
      exact .inr ⟨rfl, rfl, rfl, .inl rfl⟩
  | traitMethod traitPath name type mode =>
    simp only [call, registerTraitMethod] at h
    split at h
    · nomatch h
    · split at h
      · nomatch h
      · next hfree =>
        obtain ⟨rfl, rfl⟩ := Prod.mk.inj (Except.ok.inj h)
        rw [getTraitMethod?_eq, Option.not_isSome_iff_eq_none] at hfree
        exact .inl ⟨_, _, rfl, rfl, rfl, rfl, rfl, hfree, rfl⟩
  -- only an implementation is recorded without a number
  | traitImpl traitPath target =>
    obtain ⟨key, -, -, hnew, rfl, rfl⟩ := call_traitImpl_eq_ok.mp h
    exact .inr ⟨rfl, rfl, rfl, .inr ⟨_, hnew, rfl⟩⟩

end Registration

/-! ### What every call keeps -/

namespace Registry

variable {r r' : Registry} {d : Decl} {cs : List Registration}

/-- The declarations are numbered from 1 on, no two of them share a key, and no implementation is
recorded twice. -/
structure Sound (r : Registry) : Prop where
  numbered : r.decls.map Decl.id = (List.range r.decls.length).map fun n : Nat => (n : Int) + 1
  keys : (r.decls.map Decl.key).Nodup
  impls : r.impls.Nodup

theorem sound_empty : Sound {} := ⟨rfl, .nil, .nil⟩

theorem ofKey?_eq_none {k : Key} : r.ofKey? k = none ↔ k ∉ r.decls.map Decl.key := by
  rw [ofKey?, List.find?_eq_none, List.mem_map]
  exact ⟨fun h ⟨d, hd, he⟩ => h d hd (decide_eq_true he),
    fun h d hd he => h ⟨d, hd, of_decide_eq_true he⟩⟩

/-- Where no two declarations share a key, each is found under its own. -/
theorem Sound.ofKey?_eq_some (h : r.Sound) {k : Key} : r.ofKey? k = some d ↔ d ∈ r.decls ∧ d.key = k := by
  constructor
  · intro hd
    exact ⟨List.mem_of_find?_eq_some hd, by simpa using List.find?_some hd⟩
  · rintro ⟨hmem, rfl⟩
    cases hfound : r.ofKey? d.key with
    | none => exact absurd (List.mem_map_of_mem hmem) (ofKey?_eq_none.mp hfound)
    | some e =>
      have he : e.key = d.key := by simpa using List.find?_some hfound
      rw [List.inj_on_of_nodup_map h.keys (List.mem_of_find?_eq_some hfound) hmem he]

/-- The item of an impl. -/
theorem Sound.getInherentByKey?_eq_some (h : r.Sound) {implKey name : String} :
    r.getInherentByKey? implKey name = some d ↔
      d ∈ r.decls ∧ d.name = name ∧ ∃ target, d.origin = .inherent target implKey := by
  have hkey : d.key = .inherent implKey name ↔
      d.name = name ∧ ∃ target, d.origin = .inherent target implKey := by
    unfold Decl.key
    cases d.origin <;> simp [and_comm]
  rw [getInherentByKey?_eq, h.ofKey?_eq_some, hkey]

/-- The item of a trait. -/
theorem Sound.getTraitMethod?_eq_some (h : r.Sound) {traitPath name : String} :
    r.getTraitMethod? traitPath name = some d ↔
      d ∈ r.decls ∧ d.name = name ∧ d.origin = .traitItem traitPath := by
  have hkey : d.key = .traitMethod traitPath name ↔ d.name = name ∧ d.origin = .traitItem traitPath := by
    unfold Decl.key
    cases d.origin <;> simp [and_comm]
  rw [getTraitMethod?_eq, h.ofKey?_eq_some, hkey]

theorem Adds.sound (hadds : Adds r d r') (h : r.Sound) : r'.Sound where
  numbered := by
    rw [hadds.decls, List.map_append, h.numbered, List.length_append, List.length_singleton,
      List.range_succ, List.map_append, List.map_singleton, List.map_singleton, hadds.id]
    rfl
  keys := by
    rw [hadds.decls, List.map_append]
    exact List.concat_eq_append ▸ h.keys.concat (ofKey?_eq_none.mp hadds.fresh)
  impls := hadds.impls ▸ h.impls

/-- **Every call keeps the registry sound.** -/
theorem Sound.perform (h : r.Sound) (c : Registration) : (c.perform r).Sound := by
  unfold Registration.perform
  split
  · next o r' hcall =>
    obtain ⟨d, q, -, -, -, hadds⟩ | ⟨-, -, hdecls, himpls⟩ := Registration.call_eq_ok hcall
    · exact hadds.sound h
    · refine ⟨hdecls ▸ h.numbered, hdecls ▸ h.keys, ?_⟩
      obtain himpls | ⟨i, hi, himpls⟩ := himpls
      · exact himpls ▸ h.impls
      · exact himpls ▸ List.concat_eq_append ▸ h.impls.concat hi
  · exact h

theorem Sound.run (h : r.Sound) (cs : List Registration) : (r.run cs).Sound := by
  induction cs generalizing r with
  | nil => exact h
  | cons c cs ih => exact ih (h.perform c)

theorem run_append (r : Registry) (cs more : List Registration) :
    r.run (cs ++ more) = (r.run cs).run more := List.foldl_append

theorem Sound.traitsOf_nodup (h : r.Sound) {target : Ty} {ts : List String}
    (hts : r.traitsOf target = .ok ts) : ts.Nodup := by
  obtain ⟨k, -, hts⟩ := bind_eq_ok.mp hts
  rw [← pure_eq_ok.mp hts, traitsByKey]
  refine (h.impls.filter _).map_on fun i hi j hj he => ?_
  have hi := of_decide_eq_true (List.mem_filter.mp hi).2
  have hj := of_decide_eq_true (List.mem_filter.mp hj).2
  exact Prod.ext (hi.trans hj.symm) he

/-! ### Runs -/

end Registry

end ClosureLint
