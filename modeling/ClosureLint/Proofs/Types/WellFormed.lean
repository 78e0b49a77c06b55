import ClosureLint.Proofs.Types.Parts

/-!
# Well-formed types

A description whose kinds have the parts they ask for can be written down, filed and dereferenced,
whatever it is made of.

* `Ty.of_parts` — what passes from the parts of a type to the type holds of all types.
* `Ty.wellFormed_iff` — a well-formed type by its kind and its parts.
* `Ty.WellFormed.part` — a reference, array or slice holds a well-formed type.
* `Ty.WellFormed.text`, `Ty.WellFormed.implKey` — it has a text and a key for implementations.
* `Ty.WellFormed.derefChain` — it has a deref chain, of well-formed types.
-/

namespace ClosureLint

/-- All targets of the table are well formed. -/
def DerefTable.WellFormed (targets : DerefTable) : Prop := ∀ d ∈ targets, d.2.WellFormed

namespace Ty

variable {t u : Ty} {targets : DerefTable}

mutual

/-- What holds of a type when it holds of its parts holds of every type. -/
theorem of_parts {P : Ty → Prop} (h : ∀ t : Ty, (∀ u ∈ t.params, P u) → P t) : (t : Ty) → P t
  | ⟨_, _, ps, _, _, _⟩ => h _ (all_of_parts h ps)

theorem all_of_parts {P : Ty → Prop} (h : ∀ t : Ty, (∀ u ∈ t.params, P u) → P t) :
    (ts : List Ty) → ∀ u ∈ ts, P u
  | [] => List.forall_mem_nil _
  | t :: ts => List.forall_mem_cons.mpr ⟨of_parts h t, all_of_parts h ts⟩

end

theorem wellFormedAll_iff {ts : List Ty} : wellFormedAll ts = true ↔ ∀ t ∈ ts, t.WellFormed := by
  induction ts with
  | nil => exact ⟨fun _ => nofun, fun _ => rfl⟩
  | cons t ts ih => rw [wellFormedAll, Bool.and_eq_true, ih, List.forall_mem_cons]

theorem wellFormed_iff :
    t.WellFormed ↔ arityOk t.kind t.params.length = true ∧ ∀ u ∈ t.params, u.WellFormed := by
  obtain ⟨k, name, ps, isMut, length, isUnsafe⟩ := t
  rw [WellFormed, wellFormed, Bool.and_eq_true, wellFormedAll_iff]

namespace WellFormed

/-- A well-formed reference, array or slice holds one type, which is well formed. -/
theorem part (h : t.WellFormed) (hk : t.kind.isContainer = true) :
    ∃ u, t.params = [u] ∧ u.WellFormed := by
  obtain ⟨harity, hparts⟩ := wellFormed_iff.mp h
  have hone : ∀ (k : Kind) (n : Nat), k.isContainer = true → arityOk k n = true → n = 1 := by
    intro k n hk hn
    cases k <;> first | exact eq_of_beq hn | exact absurd hk Bool.false_ne_true
  obtain ⟨u, hu⟩ := List.length_eq_one_iff.mp (hone _ _ hk harity)
  exact ⟨u, hu, hparts u (hu ▸ List.mem_singleton_self u)⟩

/-! ### Texts -/

mutual

/-- **Every well-formed type has a text.** -/
theorem text : (t : Ty) → t.WellFormed → Succeeds (fun _ => True) t.text
  | ⟨k, name, ps, isMut, length, isUnsafe⟩, h => by
    obtain ⟨harity, hparts⟩ := wellFormed_iff.mp h
    have hps := texts ps hparts
    cases k with
    | ref | array | slice =>
      obtain ⟨p, rfl⟩ := List.length_eq_one_iff.mp (beq_iff_eq.mp harity)
      exact (hps p (List.mem_singleton_self p)).bind fun _ _ => .pure trivial
    | nominal => exact (Regular.textAll_succeeds hps).bind fun _ _ => .pure trivial
    | function =>
      refine (Regular.textAll_succeeds hps).bind fun ts hlength => ?_
      -- the result has a text, which is the last one
      have hne : ps ≠ [] := List.length_pos_iff.mp (Nat.pos_of_ne_zero (bne_iff_ne.mp harity))
      have hne' : ts ≠ [] := fun hnil => hne (List.length_eq_zero_iff.mp (hlength ▸ hnil ▸ rfl))
      rw [List.getLast?_eq_some_getLast hne, List.getLast?_eq_some_getLast hne']
      exact .pure trivial
    | tuple =>
      refine (Regular.textAll_succeeds hps).bind fun ts _ => ?_
      split <;> exact .pure trivial
    | _ => exact .pure trivial

theorem texts : (ts : List Ty) → (∀ t ∈ ts, t.WellFormed) →
    ∀ t ∈ ts, Succeeds (fun _ => True) t.text
  | [], _ => nofun
  | t :: ts, h => by
    obtain ⟨ht, hts⟩ := List.forall_mem_cons.mp h
    exact List.forall_mem_cons.mpr ⟨text t ht, texts ts hts⟩

end

theorem implKey (h : t.WellFormed) : Succeeds (fun _ => True) t.implKey := by
  unfold Ty.implKey
  split
  · exact .pure trivial
  · exact text t h

/-! ### Dereferencing -/

theorem deref? (h : t.WellFormed) (ht : targets.WellFormed) :
    Succeeds (fun o => ∀ u, o = some u → u.WellFormed) (t.deref? targets) := by
  unfold Ty.deref?
  split
  · next hk =>
    obtain ⟨p, hp, hwf⟩ := h.part (hk ▸ rfl)
    rw [hp]
    exact .pure fun u hu => Option.some.inj hu ▸ hwf
  · exact .pure fun u hu => Regular.of_lookup (P := Ty.WellFormed) ht hu
  · exact .pure nofun

theorem derefFrom (ht : targets.WellFormed) {fuel : Nat} {seen : List Ty}
    (hseen : ∀ u ∈ seen, u.WellFormed) {cur : Ty} (hcur : cur.WellFormed) :
    Succeeds (fun chain => ∀ u ∈ chain, u.WellFormed) (derefFrom targets fuel seen cur) := by
  induction fuel generalizing seen cur with
  | zero => exact .pure hseen
  | succ fuel ih =>
    refine (hcur.deref? ht).bind fun next hnext => ?_
    cases next with
    | none => exact .pure hseen
    | some u =>
      have hu := hnext u rfl
      dsimp only
      split
      · exact .pure hseen
      · exact ih (List.forall_mem_append.mpr ⟨hseen, List.forall_mem_singleton.mpr hu⟩) hu

/-- **The deref chain of a well-formed type**, by targets that are well formed, cycles included. -/
theorem derefChain (h : t.WellFormed) (ht : targets.WellFormed) :
    Succeeds (fun chain => ∀ u ∈ chain, u.WellFormed) (t.derefChain targets) :=
  derefFrom ht (List.forall_mem_singleton.mpr h) h

end WellFormed

end Ty

end ClosureLint
