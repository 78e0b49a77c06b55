import ClosureLint.Proofs.Core.AlikeBodies

/-!
# Replacing an expression by one of the same width

Where an expression makes way for another that takes as many identities, no other identity changes. If
the two hold the same expressions, then so does what is around them.

* `functions_number_replace` — functions stay numbered.
* `functions_walk_replace` — they hold the same expressions, up to the one that is replaced.
-/

namespace ClosureLint.Core

variable {i a : NodeId} {y : Expr}

/-! ### Identities -/

/-- An expression that has the identity `i` takes as many identities as `y`. -/
def WideAt (i : NodeId) (y : Expr) (es : List Expr) : Prop := ∀ z ∈ es, z.id = i → y.width = z.width

/-- The whole makes way, or it is numbered as before around what does. -/
private theorem number_root (hy : IsNumbered i y) {e e' : Expr} (h : IsNumbered a e)
    (hwidth : WideAt i y e.walk) (hne : e.id ≠ i → Expr.replace i y e = e')
    (he' : e'.number a = (e', a + e.width)) :
    (Expr.replace i y e).number a = (Expr.replace i y e, a + e.width) := by
  by_cases hi : e.id = i
  · obtain rfl : a = i := h.id_eq.symm.trans hi
    rw [Expr.replace_self hi, ← hwidth e e.mem_walk_self hi, ← Expr.number_snd]
    exact Prod.ext hy rfl
  · rw [hne hi, he']

mutual

theorem Expr.number_replace (hy : IsNumbered i y) : (e : Expr) → {a : NodeId} → IsNumbered a e →
    WideAt i y e.walk → (Expr.replace i y e).number a = (Expr.replace i y e, a + e.width)
  | .path n segments, a, h, hw =>
    number_root hy h hw (fun hi => if_neg hi) (Prod.ext h (Expr.number_snd _ a))
  | .int n value, a, h, hw =>
    number_root hy h hw (fun hi => if_neg hi) (Prod.ext h (Expr.number_snd _ a))
  | .str n value, a, h, hw =>
    number_root hy h hw (fun hi => if_neg hi) (Prod.ext h (Expr.number_snd _ a))
  | .borrow n m subject, a, h, hw =>
    number_root hy h hw (fun hi => if_neg hi) <| by
      rw [number, number_replace hy subject h.of_borrow (List.forall_mem_cons.mp hw).2,
        (Expr.borrow.inj h).1, width, Int.add_assoc]
  | .deref n subject, a, h, hw =>
    number_root hy h hw (fun hi => if_neg hi) <| by
      rw [number, number_replace hy subject h.of_deref (List.forall_mem_cons.mp hw).2,
        (Expr.deref.inj h).1, width, Int.add_assoc]
  | .field n subject name, a, h, hw =>
    number_root hy h hw (fun hi => if_neg hi) <| by
      rw [number, number_replace hy subject h.of_field (List.forall_mem_cons.mp hw).2,
        (Expr.field.inj h).1, width, Int.add_assoc]
  | .call n callee args, a, h, hw =>
    number_root hy h hw (fun hi => Expr.replace_call hi) <| by
      obtain ⟨hcallee, hargs⟩ := List.forall_mem_append.mp (List.forall_mem_cons.mp hw).2
      rw [number, number_replace hy callee h.of_call.1 hcallee]
      dsimp only
      rw [numberAll_replaceAll hy args h.of_call.2 hargs, (Expr.call.inj h).1, width, ← Int.add_assoc,
        ← Int.add_assoc]
  | .methodCall n receiver method args, a, h, hw =>
    number_root hy h hw (fun hi => Expr.replace_methodCall hi) <| by
      obtain ⟨hreceiver, hargs⟩ := List.forall_mem_append.mp (List.forall_mem_cons.mp hw).2
      rw [number, number_replace hy receiver h.of_methodCall.1 hreceiver]
      dsimp only
      rw [numberAll_replaceAll hy args h.of_methodCall.2 hargs, (Expr.methodCall.inj h).1, width,
        ← Int.add_assoc, ← Int.add_assoc]
  | .closure n params ret body, a, h, hw =>
    number_root hy h hw (fun hi => if_neg hi) <| by
      obtain ⟨hn, hparams, -, -⟩ := Expr.closure.inj h
      -- parameters are numbered in front of the body, and they stay as they are
      have hall : Param.numberAll (a + 1) params = (params, a + 1 + Param.widthAll params) :=
        Prod.ext hparams (Param.numberAll_snd ..)
      rw [number, hall]
      dsimp only
      rw [number_replace hy body h.of_closure (List.forall_mem_cons.mp hw).2, hn, width,
        ← Int.add_assoc, ← Int.add_assoc]

theorem Expr.numberAll_replaceAll (hy : IsNumbered i y) : (es : List Expr) → {a : NodeId} →
    IsNumberedAll a es → WideAt i y (Expr.walkAll es) →
    Expr.numberAll a (Expr.replaceAll i y es) = (Expr.replaceAll i y es, a + Expr.widthAll es)
  | [], a, _, _ => congrArg (Prod.mk []) (Int.add_zero a).symm
  | e :: es, a, h, hw => by
    obtain ⟨he, hes⟩ := List.forall_mem_append.mp hw
    rw [replaceAll, numberAll, number_replace hy e h.of_cons.1 he]
    dsimp only
    rw [numberAll_replaceAll hy es h.of_cons.2 hes, widthAll, Int.add_assoc]

end

theorem Stmt.number_replace (hy : IsNumbered i y) {s : Stmt} (h : (s.number a).1 = s)
    (hw : WideAt i y s.expr.walk) : (s.replace i y).number a = (s.replace i y, a + s.width) := by
  cases s with
  | letStmt n pattern declared value =>
    obtain ⟨hn, hpattern, -, hvalue⟩ := Stmt.letStmt.inj h
    -- the pattern has its numbers in front of the value
    have hall : pattern.number (a + 1) = (pattern, a + 1 + pattern.width) :=
      Prod.ext hpattern (Pattern.number_snd ..)
    rw [Pattern.number_snd] at hvalue
    rw [replace, number, hall]
    dsimp only
    rw [Expr.number_replace hy value hvalue hw, hn, width, ← Int.add_assoc, ← Int.add_assoc]
  | exprStmt n e =>
    obtain ⟨hn, he⟩ := Stmt.exprStmt.inj h
    rw [replace, number, Expr.number_replace hy e he hw, hn, width, ← Int.add_assoc]

theorem Stmt.numberAll_replace (hy : IsNumbered i y) {ss : List Stmt} (h : AreNumbered a ss)
    (hw : WideAt i y (ss.flatMap fun s => s.expr.walk)) :
    Stmt.numberAll a (ss.map (Stmt.replace i y))
      = (ss.map (Stmt.replace i y), a + Stmt.widthAll ss) := by
  induction ss generalizing a with
  | nil => exact congrArg (Prod.mk []) (Int.add_zero a).symm
  | cons s ss ih =>
    obtain ⟨hs, hss⟩ := List.forall_mem_append.mp hw
    rw [AreNumbered, numberAll_cons] at h
    obtain ⟨hhead, hrest⟩ := List.cons.inj h
    rw [List.map_cons, numberAll, number_replace hy hhead hs]
    dsimp only
    rw [ih hrest hss, widthAll, Int.add_assoc]

theorem Function.number_replace (hy : IsNumbered i y) {f : Function} (h : (f.number a).1 = f)
    (hw : WideAt i y f.walk) : (f.replace i y).number a = (f.replace i y, a + f.width) := by
  have hparams : Param.numberAll (a + 1) f.params = (f.params, a + 1 + Param.widthAll f.params) :=
    Prod.ext (congrArg Function.params h) (Param.numberAll_snd ..)
  -- how a function is numbered, whatever its statements are
  have hnumber (ss : List Stmt) (body : Block) : ({ f with body := { body with stmts := ss } }).number a
      = ({ f with
            node := f.node.withId a
            body := ⟨a + 1 + Param.widthAll f.params,
              (Stmt.numberAll (a + 1 + Param.widthAll f.params + 1) ss).1⟩ },
          (Stmt.numberAll (a + 1 + Param.widthAll f.params + 1) ss).2) := by
    rw [number, hparams]
  have hf : (f.number a).1 = _ := congrArg Prod.fst (hnumber f.body.stmts f.body)
  rw [h] at hf
  have hnode : f.node = f.node.withId a := congrArg Function.node hf
  have hid : @Eq Int f.body.id (a + 1 + Param.widthAll f.params) := congrArg (fun f => f.body.id) hf
  have hstmts : f.body.stmts = _ := congrArg (fun f => f.body.stmts) hf
  rw [replace, hnumber, Stmt.numberAll_replace hy hstmts.symm hw, ← hnode, ← hid]
  refine Prod.ext rfl ?_
  change @Eq Int (f.body.id + 1 + _) (a + (2 + Param.widthAll f.params + _))
  omega

/-- **Functions stay numbered.** -/
theorem functions_number_replace (hy : IsNumbered i y) {fs : List Function}
    (h : Function.numberAll a fs = fs) (hw : WideAt i y (fs.flatMap Function.walk)) :
    Function.numberAll a (fs.map (Function.replace i y)) = fs.map (Function.replace i y) := by
  induction fs generalizing a with
  | nil => rfl
  | cons f fs ih =>
    obtain ⟨hf, hfs⟩ := List.forall_mem_append.mp hw
    obtain ⟨hhead, hrest⟩ := List.cons.inj h
    rw [Function.number_snd] at hrest
    rw [List.map_cons, Function.numberAll, Function.number_replace hy hhead hf]
    exact congrArg _ (ih hrest hfs)

/-! ### Walks -/

/-- `y` holds what an expression holds that has the identity `i`. -/
def HoldsAt (i : NodeId) (y : Expr) (es : List Expr) : Prop :=
  ∀ z ∈ es, z.id = i → y.inside = z.inside.map (Expr.replace i y)

private theorem walk_root {e e' : Expr} (h : HoldsAt i y e.walk)
    (hne : e.id ≠ i → Expr.replace i y e = e')
    (he' : e'.inside = e.inside.map (Expr.replace i y)) :
    (Expr.replace i y e).walk = e.walk.map (Expr.replace i y) := by
  rw [Expr.walk_eq, Expr.walk_eq, List.map_cons]
  by_cases hi : e.id = i
  · rw [Expr.replace_self hi, h e e.mem_walk_self hi]
  · rw [hne hi, he']

mutual

theorem Expr.walk_replace : (e : Expr) → HoldsAt i y e.walk →
    (Expr.replace i y e).walk = e.walk.map (Expr.replace i y)
  | .path .., h | .int .., h | .str .., h => walk_root h (fun hi => if_neg hi) rfl
  | .borrow _ _ subject, h | .deref _ subject, h | .field _ subject _, h
  | .closure _ _ _ subject, h => walk_root h (fun hi => if_neg hi)
    (walk_replace subject (List.forall_mem_cons.mp h).2)
  | .call _ callee args, h => walk_root h (fun hi => Expr.replace_call hi) <| by
      obtain ⟨hcallee, hargs⟩ := List.forall_mem_append.mp (List.forall_mem_cons.mp h).2
      rw [inside, inside, List.map_append, walk_replace callee hcallee, walkAll_replaceAll args hargs]
  | .methodCall _ receiver _ args, h => walk_root h (fun hi => Expr.replace_methodCall hi) <| by
      obtain ⟨hreceiver, hargs⟩ := List.forall_mem_append.mp (List.forall_mem_cons.mp h).2
      rw [inside, inside, List.map_append, walk_replace receiver hreceiver,
        walkAll_replaceAll args hargs]

theorem Expr.walkAll_replaceAll : (es : List Expr) → HoldsAt i y (Expr.walkAll es) →
    Expr.walkAll (Expr.replaceAll i y es) = (Expr.walkAll es).map (Expr.replace i y)
  | [], _ => rfl
  | e :: es, h => by
    obtain ⟨he, hes⟩ := List.forall_mem_append.mp h
    rw [replaceAll, walkAll, walkAll, List.map_append, walk_replace e he, walkAll_replaceAll es hes]

end

/-- **Functions hold the same expressions**, but for the one that is replaced. -/
theorem functions_walk_replace {fs : List Function} (h : HoldsAt i y (fs.flatMap Function.walk)) :
    (fs.map (Function.replace i y)).flatMap Function.walk
      = (fs.flatMap Function.walk).map (Expr.replace i y) := by
  -- statement by statement
  have hstmt (s : Stmt) (hs : HoldsAt i y s.expr.walk) :
      (s.replace i y).expr.walk = s.expr.walk.map (Expr.replace i y) := by
    cases s with
    | letStmt | exprStmt => exact Expr.walk_replace _ hs
  rw [List.flatMap_map, List.map_flatMap]
  refine List.flatMap_congr fun f hf => ?_
  rw [Function.walk, Function.walk, Function.replace, List.flatMap_map, List.map_flatMap]
  refine List.flatMap_congr fun s hs => hstmt s fun z hz => h z ?_
  exact List.mem_flatMap.mpr ⟨f, hf, List.mem_flatMap.mpr ⟨s, hs, hz⟩⟩

end ClosureLint.Core
