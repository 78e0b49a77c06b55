import ClosureLint.Proofs.Grammar.ItemHoles

/-!
# Receivers in a text that can be read

A receiver outside of a trait or impl is a late fault, and every receiver that is read has one of the
four forms that a method may have.

* `IsFunction.receiver` — the receiver of one function.
* `IsItems.receivers` — the receivers of all functions of a text.
-/

namespace ClosureLint.Syntax

/-- The receiver of `f` has a form that a method may have. -/
def SoundReceiver (f : FunctionDef) : Prop :=
  ∀ r form, f.receiver = some r → r.form ≠ .unsupported form

theorem receiverOf_eq_some {ps : List WrittenParam} {r : Receiver} (h : receiverOf ps = some r) :
    .receiver r ∈ ps := by
  obtain ⟨p, hp, hr⟩ := List.exists_of_findSome?_eq_some h
  split at hr
  · exact Option.some.inj hr ▸ hp
  · nomatch hr

theorem IsParam.supported {ts : List Token} {r : Receiver} {late : List LateFault}
    (h : IsParam ts (.receiver r) late) (form : String) : r.form ≠ .unsupported form := by
  cases h with
  | value _ _ => nofun
  | ref _ _ _ =>
    dsimp only
    split <;> nofun
  | typed _ _ _ => nofun

/-- Every receiver in a list of parameters was read, and is faulted outside of a method. -/
theorem IsParams.receiver {inMethod : Bool} {index : Nat} {ts : List Token}
    {ps : List WrittenParam} {late : List LateFault} (h : IsParams inMethod index ts ps late)
    (hl : late = []) {r : Receiver} (hr : .receiver r ∈ ps) :
    inMethod = true ∧ ∀ form, r.form ≠ .unsupported form := by
  have hmethod {i : Nat} (h : paramLate inMethod i (.receiver r) = []) : inMethod = true := by
    cases inMethod with
    | true => rfl
    | false => nomatch h
  induction h with
  | nil => nomatch hr
  | last hp _ =>
    obtain ⟨hfault, -⟩ := List.append_eq_nil_iff.mp hl
    obtain rfl := List.mem_singleton.mp hr
    exact ⟨hmethod hfault, hp.supported⟩
  | cons hp _ _ ih =>
    simp only [List.append_eq_nil_iff] at hl
    rcases List.mem_cons.mp hr with rfl | hr
    · exact ⟨hmethod hl.1.1, hp.supported⟩
    · exact ih hl.2 hr

/-- **The receiver of a function**: only a method has one, in a form that it may have. -/
theorem IsFunction.receiver {inMethod : Bool} {ts : List Token} {f : FunctionDef}
    {late : List LateFault} (h : IsFunction inMethod ts f late) (hl : late = []) :
    (inMethod = false → f.receiver = none) ∧ SoundReceiver f := by
  cases h with
  | mk _ _ _ _ hps _ _ =>
    simp only [List.append_eq_nil_iff] at hl
    refine ⟨fun hfree => ?_, fun r form hr => ?_⟩
    · refine Option.eq_none_iff_forall_ne_some.mpr fun r hr => ?_
      have hmethod := (hps.receiver hl.1 (receiverOf_eq_some hr)).1
      rw [hfree] at hmethod
      exact absurd hmethod Bool.false_ne_true
    · exact (hps.receiver hl.1 (receiverOf_eq_some hr)).2 form

theorem IsMethods.receivers {ts : List Token} {ms : List FunctionDef} {late : List LateFault}
    (h : IsMethods ts ms late) (hl : late = []) : ∀ f ∈ ms, SoundReceiver f := by
  induction h with
  | nil => exact fun f hf => absurd hf List.not_mem_nil
  | cons hf _ ih =>
    obtain ⟨hl, hl'⟩ := List.append_eq_nil_iff.mp hl
    exact List.forall_mem_cons.mpr ⟨(hf.receiver hl).2, ih hl'⟩

theorem IsItem.receivers {ts : List Token} {i : Item} {late : List LateFault}
    (h : IsItem ts i late) (hl : late = []) :
    ∀ f ∈ i.functions, SoundReceiver f ∧ (i.sort = .function → f.receiver = none) := by
  have hmethods {ms : List FunctionDef} (hms : ∀ f ∈ ms, SoundReceiver f)
      (hsort : i.sort ≠ .function) :
      ∀ f ∈ ms, SoundReceiver f ∧ (i.sort = .function → f.receiver = none) :=
    fun f hf => ⟨hms f hf, fun h => absurd h hsort⟩
  cases h with
  | structDef _ _ _ _ => exact fun f hf => absurd hf List.not_mem_nil
  | traitDef _ _ _ hms => exact hmethods (hms.receivers hl) ItemSort.noConfusion
  | inherentImpl _ _ _ hms =>
    exact hmethods (hms.receivers (List.append_eq_nil_iff.mp hl).1) ItemSort.noConfusion
  | traitImpl _ _ _ _ _ hms =>
    exact hmethods (hms.receivers (List.append_eq_nil_iff.mp hl).1) ItemSort.noConfusion
  | function hf =>
    obtain ⟨hnone, hsound⟩ := hf.receiver hl
    exact List.forall_mem_singleton.mpr ⟨hsound, fun _ => hnone rfl⟩

/-- **The receivers of a text** are sound, and none stands outside of a trait or impl. -/
theorem IsItems.receivers {ts : List Token} {items : List Item} {late : List LateFault}
    (h : IsItems ts items late) (hl : late = []) (sort : ItemSort) :
    ∀ f ∈ functionsOf sort items, SoundReceiver f ∧ (sort = .function → f.receiver = none) := by
  induction h with
  | nil => exact fun f hf => absurd hf List.not_mem_nil
  | @cons _ _ i _ _ _ hi _ ih =>
    obtain ⟨hl, hl'⟩ := List.append_eq_nil_iff.mp hl
    rw [functionsOf, List.flatMap_cons]
    refine List.forall_mem_append.mpr ⟨fun f hf => ?_, ih hl'⟩
    split at hf
    · next hsort =>
      subst hsort
      exact hi.receivers hl f hf
    · exact absurd hf List.not_mem_nil

end ClosureLint.Syntax
