import ClosureLint.Proofs.Registry.Resolve
import ClosureLint.Proofs.Types.Parts

/-!
# Callables as declarations make them

A method's type begins with its receiver, which for `self`, `&self` and `&mut self` is the type it is
declared for or a reference to that. Where all callables are made that way, an operation of the
registry may refuse what it is asked, but never meets a malformed type.

* `Decl.WellMade` — a callable as declarations make it.
* `Faultless` — an operation that meets no malformed type.
* `registerInherent_faultless`, … — registering does not.
* `resolveMethod_faultless`, `resolveAssociated_faultless` — nor does finding what a use means.
-/

namespace ClosureLint

/-- The type that a callable with a receiver is declared for; in a trait that is `Self`. -/
def Origin.owner? : Origin → Option Ty
  | .free => none
  | .inherent target _ => some target
  | .traitItem _ => some .selfParam

/-- The type of a receiver, when the mode settles it: `owner` or a reference to it. -/
def SelfMode.receiver? (owner : Ty) : SelfMode → Option Ty
  | .byValue => some owner
  | .byRef => some (.ref owner)
  | .byRefMut => some (.ref owner true)
  | .typed => none

/-- A callable as declarations make it. -/
structure Decl.WellMade (names : String → Prop) (d : Decl) : Prop where
  type : d.type.Regular names
  receiver : ∀ mode, d.selfMode = some mode → ∃ self params ret isUnsafe,
    d.type = .function (self :: params) ret isUnsafe ∧
      ∃ owner, d.origin.owner? = some owner ∧ ∀ t, mode.receiver? owner = some t → self = t
  target : ∀ target key, d.origin = .inherent target key →
    target.Regular names ∧ target.implKey = .ok key

variable {names : String → Prop} {ε α β : Type} {d : Decl}

namespace Decl.WellMade

/-- The type of a method is a function type. -/
theorem isFunction (h : d.WellMade names) (hm : d.isMethod = true) : d.type.kind = .function := by
  obtain ⟨mode, hmode⟩ := Option.isSome_iff_exists.mp hm
  obtain ⟨self, params, ret, isUnsafe, htype, -⟩ := h.receiver mode hmode
  rw [htype]
  rfl

/-- The declared receiver type of a callable is there exactly if it is a method. -/
theorem selfType? (h : d.WellMade names) :
    Succeeds (fun o => (d.isMethod = true → o.isSome = true) ∧ ∀ t, o = some t → t.Regular names)
      d.selfType? := by
  unfold Decl.selfType?
  cases hmode : d.selfMode with
  | none =>
    refine .pure ⟨fun hm => ?_, nofun⟩
    rw [isMethod, hmode] at hm
    nomatch hm
  | some mode =>
    obtain ⟨self, params, ret, isUnsafe, htype, -⟩ := h.receiver mode hmode
    -- the receiver is the first parameter of the callable's type
    have hself : self.Regular names := by
      refine h.type.params self ?_
      rw [htype]
      exact List.mem_append_left _ List.mem_cons_self
    have hparams : d.type.fnParams = .ok (self :: params) := by
      rw [htype]
      exact congrArg Except.ok List.dropLast_concat
    rw [hparams]
    exact .pure ⟨fun _ => rfl, fun t ht => Option.some.inj ht ▸ hself⟩

end Decl.WellMade

/-- A method asks for some receiver type. -/
theorem expectedReceiver_succeeds (h : d.WellMade names) (hm : d.isMethod = true) (step : Ty) :
    Succeeds (fun _ => True) (expectedReceiver d step) := by
  unfold expectedReceiver
  split
  · exact .pure trivial
  · exact .pure trivial
  · exact .pure trivial
  all_goals
    -- the declared type of the receiver is asked for
    refine h.selfType?.bind fun o ho => ?_
    obtain ⟨t, rfl⟩ := Option.isSome_iff_exists.mp (ho.1 hm)
    exact .pure trivial

/-! ### Operations that meet no malformed type -/

/-- An operation that may refuse meets no malformed type; if it answers, the answer has the
property `P`. -/
inductive Faultless (P : α → Prop) : Except (Failure ε) α → Prop where
  | ok {a : α} : P a → Faultless P (.ok a)
  | refused (e : ε) : Faultless P (.error (.refused e))

namespace Faultless

variable {P : α → Prop} {Q : β → Prop} {x : Except (Failure ε) α}

theorem bind {f : α → Except (Failure ε) β} (hx : Faultless P x)
    (hf : ∀ a, P a → Faultless Q (f a)) : Faultless Q (x >>= f) := by
  cases hx with
  | ok ha => exact hf _ ha
  | refused e => exact .refused e

theorem lift {x : Except Fault α} (h : Succeeds P x) :
    Faultless P (liftM x : Except (Failure ε) α) := by
  obtain ⟨a, rfl, ha⟩ := h
  exact .ok ha

theorem map {f : α → β} (hx : Faultless P x) (hf : ∀ a, P a → Q (f a)) :
    Faultless Q (x.map f) := by
  cases hx with
  | ok ha => exact .ok (hf _ ha)
  | refused e => exact .refused e

/-- A refusal whose wording needs a text. -/
theorem refusal {x : Except Fault β} (h : Succeeds (fun _ => True) x) (f : β → ε) :
    Faultless P (do throw (.refused (f (← x))) : Except (Failure ε) α) := by
  obtain ⟨b, rfl, -⟩ := h
  exact .refused _

end Faultless

namespace Registry

variable {r : Registry} {t target : Ty} {name : String}

theorem getInherent?_succeeds (h : t.Regular names) :
    Succeeds (fun o => ∀ d, o = some d → d ∈ r.decls) (r.getInherent? t name) := by
  have hsucceeds : Succeeds (fun _ => True) (r.getInherent? t name) :=
    h.implKey.bind fun _ _ => .pure trivial
  refine hsucceeds.and fun o ho d hd => ?_
  obtain ⟨key, -, hk⟩ := getInherent?_eq_ok (hd ▸ ho)
  exact (getInherentByKey?_mem hk).1

theorem traitsOf_succeeds (h : t.Regular names) : Succeeds (fun _ => True) (r.traitsOf t) :=
  h.implKey.bind fun _ _ => .pure trivial

/-! ### Registering -/

theorem registerFree_faultless (path : String) (type : Ty) :
    Faultless (fun _ => True) (r.registerFree path type) := by
  unfold registerFree
  split
  · exact .refused _
  · exact .ok trivial

theorem registerInherent_faultless (h : target.Regular names) (type : Ty)
    (mode : Option SelfMode) :
    Faultless (fun _ => True) (r.registerInherent target name type mode) := by
  refine (Faultless.lift h.implKey).bind fun key _ => ?_
  split
  · exact .refusal h.text _
  · exact .ok trivial

theorem registerTrait_faultless (path : String) :
    Faultless (fun _ => True) (r.registerTrait path) := by
  unfold registerTrait
  split
  · exact .refused _
  · exact .ok trivial

theorem registerTraitMethod_faultless (path : String) (type : Ty) (mode : Option SelfMode) :
    Faultless (fun _ => True) (r.registerTraitMethod path name type mode) := by
  unfold registerTraitMethod
  dsimp only
  split
  · exact .refused _
  · split
    · exact .refused _
    · exact .ok trivial

theorem registerTraitImpl_faultless (h : target.Regular names) (path : String) :
    Faultless (fun _ => True) (r.registerTraitImpl path target) := by
  unfold registerTraitImpl
  split
  · exact .refused _
  -- only the key and the text of the target could be malformed
  · refine (Faultless.lift h.implKey).bind fun key _ => ?_
    split
    · exact .refusal h.text _
    · exact .ok trivial

/-! ### Finding what a use means -/

theorem resolution_faultless (hd : d.WellMade names) (hm : d.isMethod = true) (step receiver : Ty) :
    Succeeds (fun _ => True) (resolution d step receiver) :=
  (expectedReceiver_succeeds hd hm step).bind fun _ _ => .pure trivial

theorem traitCandidates_succeeds (h : t.Regular names) :
    Succeeds (fun ds => ∀ d ∈ ds, d ∈ r.decls ∧ d.isMethod = true) (r.traitCandidates t name) := by
  refine (traitsOf_succeeds h).bind fun paths _ => .pure fun d hd => ?_
  obtain ⟨path, -, hd⟩ := List.mem_filterMap.mp hd
  obtain ⟨hd, hm⟩ := Option.filter_eq_some_iff.mp hd
  exact ⟨(getTraitMethod?_mem hd).1, hm⟩

theorem resolveOn_faultless (hdecls : ∀ d ∈ r.decls, d.WellMade names) {receiver : Ty}
    (hreceiver : receiver.Regular names) {steps : List Ty} (h : ∀ t ∈ steps, t.Regular names) :
    Faultless (fun _ => True) (r.resolveOn receiver name steps) := by
  induction steps with
  | nil => exact .refusal hreceiver.text _
  | cons step steps ih =>
    obtain ⟨hstep, hsteps⟩ := List.forall_mem_cons.mp h
    unfold resolveOn
    -- an unknown step is passed over; then inherent methods are tried, and then those of traits
    split
    · exact ih hsteps
    · refine (Faultless.lift (getInherent?_succeeds hstep)).bind fun found hfound => ?_
      split
      · next d hd =>
        obtain ⟨hd, hm⟩ := Option.filter_eq_some_iff.mp hd
        exact .lift (resolution_faultless (hdecls d (hfound d hd)) hm step receiver)
      · refine (Faultless.lift (traitCandidates_succeeds hstep)).bind fun candidates hmem => ?_
        split
        -- none, one, or several traits have a method of this name
        · exact ih hsteps
        · next d =>
          obtain ⟨hd, hm⟩ := hmem d List.mem_cons_self
          exact .lift (resolution_faultless (hdecls d hd) hm step receiver)
        · exact .refused _

/-- **Looking for a method** meets no malformed type. -/
theorem resolveMethod_faultless (hdecls : ∀ d ∈ r.decls, d.WellMade names) {targets : DerefTable}
    (ht : Ty.Regular.TargetsRegular names targets) {receiver : Ty}
    (hreceiver : receiver.Regular names) :
    Faultless (fun _ => True) (r.resolveMethod targets receiver name) :=
  (Faultless.lift (hreceiver.derefChain ht)).bind fun _ hsteps =>
    resolveOn_faultless hdecls hreceiver hsteps

/-- **Looking for what a path means** meets no malformed type. -/
theorem resolveAssociated_faultless {owner : Option Ty} (h : ∀ t, owner = some t → t.Regular names)
    (traitPath : Option String) :
    Faultless (fun _ => True) (r.resolveAssociated owner traitPath name) := by
  unfold resolveAssociated
  -- the path begins with a type, with a trait, or with neither
  split
  · next type =>
    have htype := h type rfl
    refine (Faultless.lift (getInherent?_succeeds htype)).bind fun found _ => ?_
    split
    · exact .ok trivial
    · refine (Faultless.lift (traitsOf_succeeds htype)).bind fun paths _ => ?_
      split
      · exact .ok trivial
      · exact .refusal htype.text _
  · split
    · exact .ok trivial
    · exact .refused _
  · exact .refused _

end Registry

end ClosureLint
