import ClosureLint.Proofs.Outcome
import Mathlib.Data.List.Forall2

/-!
# Two computations side by side

Two steps that keep a state can be taken from two states that are related. They go together when each
success of the first is one of the second, with the same answer, and leaves states that are related in
their turn.

* `Couples` — a step goes with another one, from states related by `R` to states related by `S`.
* `Chained` — two lists are related entry by entry, while the relation moves on.
* `Couples.bind`, `Couples.get`, `Couples.forM_chained`, … — steps that are built alike from steps that
  go together do so themselves.
* `Agrees` — the same for computations without a state: where the first succeeds the second does, and
  their answers are related.
* `Outcomes` — they fail alike, or both succeed with answers that are related.
-/

namespace ClosureLint

variable {ε σ α β γ δ ι : Type} {R S T : σ → σ → Prop}

/-- What `m` does from a state, `m'` does from any state that is related to it. -/
structure Couples (R S : σ → σ → Prop) (m m' : StateT σ (Except ε) α) : Prop where
  runs : ∀ {s a s₁ s'}, Gives m s a s₁ → R s s' → ∃ s₁', Gives m' s' a s₁' ∧ S s₁ s₁'

/-- The entries of two lists are related in turn, each pair leading from one stage to another. -/
inductive Chained (L : ι → ι → γ → δ → Prop) : ι → ι → List γ → List δ → Prop
  | nil {i : ι} : Chained L i i [] []
  | cons {i j k : ι} {a : γ} {b : δ} {as : List γ} {bs : List δ} :
    L i j a b → Chained L j k as bs → Chained L i k (a :: as) (b :: bs)

/-- Entries that stay at one stage. -/
theorem Chained.of_forall₂ {L : ι → ι → γ → δ → Prop} {i : ι} {l : List γ} {l' : List δ}
    (h : List.Forall₂ (L i i) l l') : Chained L i i l l' := by
  induction h with
  | nil => exact .nil
  | cons h _ ih => exact .cons h ih

/-- Two images of a list are related entry by entry. -/
theorem forall₂_maps {V : γ → δ → Prop} {f : ι → γ} {g : ι → δ} {l : List ι}
    (h : ∀ a ∈ l, V (f a) (g a)) : List.Forall₂ V (l.map f) (l.map g) :=
  List.forall₂_map_left_iff.mpr (List.forall₂_map_right_iff.mpr (List.forall₂_same.mpr h))

/-- A list and its image, at one stage. -/
theorem Chained.map {L : ι → ι → γ → δ → Prop} {i : ι} {f : γ → δ} (h : ∀ a, L i i a (f a))
    (l : List γ) : Chained L i i l (l.map f) := by
  induction l with
  | nil => exact .nil
  | cons a l ih => exact .cons (h a) ih

section

variable {L : ι → ι → γ → γ → Prop} {i j : ι}

/-- One list, at one stage. -/
theorem Chained.self (h : ∀ a, L i i a a) (l : List γ) : Chained L i i l l := by
  have hmap := Chained.map h l
  rwa [List.map_id'] at hmap

/-- One entry makes way for another, and that leads to the next stage. -/
theorem Chained.around {a b : γ} (hi : ∀ a, L i i a a) (h : L i j a b) (hj : ∀ a, L j j a a)
    (before after : List γ) : Chained L i j (before ++ a :: after) (before ++ b :: after) := by
  induction before with
  | nil => exact .cons h (.self hj after)
  | cons c before ih => exact .cons (hi c) ih

end

namespace Couples

theorem pure (a : α) : Couples R R (pure a : StateT σ (Except ε) α) (pure a) where
  runs {_ _ _ s'} h hs := by
    obtain ⟨rfl, rfl⟩ := gives_pure.mp h
    exact ⟨s', gives_pure.mpr ⟨rfl, rfl⟩, hs⟩

theorem throw (e e' : ε) : Couples R S (throw e : StateT σ (Except ε) α) (throw e') where
  runs h _ := absurd h not_gives_throw

theorem lift (x : Except ε α) : Couples R R (liftM x : StateT σ (Except ε) α) (liftM x) where
  runs {_ _ _ s'} h hs := by
    obtain ⟨hx, rfl⟩ := gives_lift.mp h
    exact ⟨s', gives_lift.mpr ⟨hx, rfl⟩, hs⟩

theorem modify {f f' : σ → σ} (h : ∀ s s', R s s' → S (f s) (f' s')) :
    Couples R S (modify f : StateT σ (Except ε) Unit) (modify f') where
  runs {s _ _ s'} hg hs := by
    rw [← gives_modify.mp hg]
    exact ⟨f' s', gives_modify.mpr rfl, h s s' hs⟩

variable {m m' : StateT σ (Except ε) α}

theorem mono {R' S' : σ → σ → Prop} (h : Couples R S m m') (hR : ∀ s s', R' s s' → R s s')
    (hS : ∀ s s', S s s' → S' s s') : Couples R' S' m m' where
  runs hg hs := by
    obtain ⟨s₁', h₁', hs₁⟩ := h.runs hg (hR _ _ hs)
    exact ⟨s₁', h₁', hS _ _ hs₁⟩

theorem bind {f f' : α → StateT σ (Except ε) β} (hm : Couples R S m m')
    (hf : ∀ a, Couples S T (f a) (f' a)) : Couples R T (m >>= f) (m' >>= f') where
  runs h hs := by
    obtain ⟨a, s₁, h₁, h₂⟩ := gives_bind.mp h
    obtain ⟨s₁', h₁', hs₁⟩ := hm.runs h₁ hs
    obtain ⟨s₂', h₂', hs₂⟩ := (hf a).runs h₂ hs₁
    exact ⟨s₂', gives_bind.mpr ⟨a, s₁', h₁', h₂'⟩, hs₂⟩

/-- A look at the states, which are related. -/
theorem get {f f' : σ → StateT σ (Except ε) α} (h : ∀ s s', R s s' → Couples R S (f s) (f' s')) :
    Couples R S (get >>= f) (get >>= f') where
  runs {s _ _ s'} hg hs := by
    obtain ⟨s₁', h₁', hs₁⟩ := (h s s' hs).runs (gives_get_bind.mp hg) hs
    exact ⟨s₁', gives_get_bind.mpr h₁', hs₁⟩

/-- Going through two lists, entry by entry. -/
theorem forM_chained {L : ι → ι → γ → δ → Prop} {K : ι → σ → σ → Prop}
    {f : γ → StateT σ (Except ε) Unit} {f' : δ → StateT σ (Except ε) Unit}
    (h : ∀ i j a b, L i j a b → Couples (K i) (K j) (f a) (f' b)) {i k : ι} {l : List γ}
    {l' : List δ} (hl : Chained L i k l l') : Couples (K i) (K k) (l.forM f) (l'.forM f') := by
  induction hl with
  | nil => exact pure ()
  | cons hab _ ih => exact (h _ _ _ _ hab).bind fun _ => ih

/-- Going through a list and through its image. -/
theorem forM_map {f : γ → StateT σ (Except ε) Unit} {f' : δ → StateT σ (Except ε) Unit} {g : γ → δ}
    {l : List γ} (h : ∀ a ∈ l, Couples R R (f a) (f' (g a))) :
    Couples R R (l.forM f) ((l.map g).forM f') := by
  induction l with
  | nil => exact pure ()
  | cons a l ih =>
    obtain ⟨ha, hl⟩ := List.forall_mem_cons.mp h
    exact ha.bind fun _ => ih hl

theorem mapM_map {f : γ → StateT σ (Except ε) β} {f' : δ → StateT σ (Except ε) β} {g : γ → δ}
    {l : List γ} (h : ∀ a ∈ l, Couples R R (f a) (f' (g a))) :
    Couples R R (l.mapM f) ((l.map g).mapM f') := by
  induction l with
  | nil =>
    rw [List.map_nil, List.mapM_nil, List.mapM_nil]
    exact pure []
  | cons a l ih =>
    obtain ⟨ha, hl⟩ := List.forall_mem_cons.mp h
    rw [List.map_cons, List.mapM_cons, List.mapM_cons]
    exact ha.bind fun _ => (ih hl).bind fun _ => pure _

/-- Going through one list twice. -/
theorem forM_self {f f' : γ → StateT σ (Except ε) Unit} {l : List γ}
    (h : ∀ a ∈ l, Couples R R (f a) (f' a)) : Couples R R (l.forM f) (l.forM f') := by
  have hmap := forM_map (g := id) h
  rwa [List.map_id] at hmap

/-- Going through a list, and through the same with one entry more. -/
theorem forM_insert {f f' : γ → StateT σ (Except ε) Unit} {before after : List γ} {d : γ}
    (hbefore : ∀ a ∈ before, Couples R R (f a) (f' a)) (hd : Couples R S (Pure.pure ()) (f' d))
    (hafter : ∀ a ∈ after, Couples S S (f a) (f' a)) :
    Couples R S ((before ++ after).forM f) ((before ++ d :: after).forM f') := by
  induction before with
  | nil => exact hd.bind fun _ => forM_self hafter
  | cons a before ih =>
    obtain ⟨ha, hbefore⟩ := List.forall_mem_cons.mp hbefore
    exact ha.bind fun _ => ih hbefore

end Couples

/-! ### Computations without a state -/

/-- Where `x` succeeds, so does `x'`, and the answers are related. -/
structure Agrees (V : α → β → Prop) (x : Except ε α) (x' : Except ε β) : Prop where
  answers : ∀ {a}, x = .ok a → ∃ b, x' = .ok b ∧ V a b

namespace Agrees

variable {V : α → β → Prop} {W : γ → δ → Prop} {x : Except ε α} {x' : Except ε β}

theorem pure {a : α} {b : β} (h : V a b) : Agrees V (pure a : Except ε α) (pure b) where
  answers ha := ⟨b, rfl, pure_eq_ok.mp ha ▸ h⟩

theorem bind {f : α → Except ε γ} {f' : β → Except ε δ} (hx : Agrees V x x')
    (hf : ∀ a b, V a b → Agrees W (f a) (f' b)) : Agrees W (x >>= f) (x' >>= f') where
  answers h := by
    obtain ⟨a, ha, h⟩ := bind_eq_ok.mp h
    obtain ⟨b, hb, hV⟩ := hx.answers ha
    obtain ⟨c, hc, hW⟩ := (hf a b hV).answers h
    exact ⟨c, bind_eq_ok.mpr ⟨b, hb, hc⟩, hW⟩

/-- The same computation on both sides. -/
theorem self {V : α → α → Prop} (h : ∀ a, V a a) (x : Except ε α) : Agrees V x x where
  answers {a} hx := ⟨a, hx, h a⟩

/-- Faults may be put in other words. -/
theorem mapError {φ : Type} (h : Agrees V x x') (f f' : ε → φ) :
    Agrees V (x.mapError f) (x'.mapError f') where
  answers ha := by
    obtain ⟨b, hb, hV⟩ := h.answers (mapError_eq_ok.mp ha)
    exact ⟨b, mapError_eq_ok.mpr hb, hV⟩

theorem mapM {U : γ → δ → Prop} {f : γ → Except ε α} {f' : δ → Except ε β}
    (h : ∀ a b, U a b → Agrees V (f a) (f' b)) {l : List γ} {l' : List δ}
    (hl : List.Forall₂ U l l') : Agrees (List.Forall₂ V) (l.mapM f) (l'.mapM f') := by
  induction hl with
  | nil =>
    rw [List.mapM_nil, List.mapM_nil]
    exact pure .nil
  | cons hab _ ih =>
    rw [List.mapM_cons, List.mapM_cons]
    exact (h _ _ hab).bind fun _ _ hV => ih.bind fun _ _ hVs => pure (.cons hV hVs)

end Agrees

/-- Both computations fail for the same reason, or both succeed with related answers. -/
inductive Outcomes (V : α → β → Prop) : Except ε α → Except ε β → Prop
  | ok {a : α} {b : β} : V a b → Outcomes V (.ok a) (.ok b)
  | error (e : ε) : Outcomes V (.error e) (.error e)

namespace Outcomes

variable {V : α → β → Prop} {W : γ → δ → Prop} {x : Except ε α} {x' : Except ε β}

/-- The same computation on both sides. -/
theorem refl {V : α → α → Prop} (h : ∀ a, V a a) : (x : Except ε α) → Outcomes V x x
  | .ok a => .ok (h a)
  | .error e => .error e

theorem bind {f : α → Except ε γ} {f' : β → Except ε δ} (hx : Outcomes V x x')
    (hf : ∀ a b, V a b → Outcomes W (f a) (f' b)) : Outcomes W (x >>= f) (x' >>= f') := by
  cases hx with
  | ok hV => exact hf _ _ hV
  | error e => exact .error e

end Outcomes

end ClosureLint
