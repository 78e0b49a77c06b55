import ClosureLint.Proofs.Grammar.Holes

/-!
# Closures that are arguments, in the items of a text

* `IsStmts.hole`, `IsFunction.hole` — a closure that is an argument somewhere in a body stands where
  any expression can stand.
* `functionsOf` — the functions in items of one sort.
* `IsItems.split` — a function among its items can be exchanged.
* `IsItems.hole` — what becomes of all functions of a text when a closure is replaced.
-/

namespace ClosureLint.Syntax

open ClosureLint.Core

variable {x : Core.Expr}

/-! ### Statements -/

/-- Statements, lowered and with their identities given out from `n` on. -/
def numberedStmts (c : Lowering) (n : NodeId) (ss : List Syntax.Stmt) : List Core.Stmt :=
  (Stmt.numberAll n (ss.map (lowerStmt c))).1

/-- Numbered statements without places are plain ones. -/
theorem numberedStmts_bare (c : Lowering) (n : NodeId) (ss : List Syntax.Stmt) :
    (numberedStmts c n ss).map Core.Stmt.bare = ss.map plainStmt :=
  (Stmt.bare_numberAll _ n).trans (bare_lowerStmts c ss)

/-- A closure that is an argument somewhere in a statement. -/
theorem IsStmt.hole {ts : List Token} {s : Syntax.Stmt} {late : List LateFault}
    (h : IsStmt ts s late) (hl : late = []) {c : Lowering} {n : NodeId}
    (hx : IsHeld x ((lowerStmt c s).number n).1.expr.walk) :
    HasHole IsStmt ts x fun z s' =>
      plainStmt s' = (Stmt.replace x.id z ((lowerStmt c s).number n).1).bare := by
  cases h with
  | @letStmt word name equal semicolon ms ds vs isMut declared value _ _ hw hm hn hd he hv hs =>
    obtain ⟨rfl, rfl⟩ := List.append_eq_nil_iff.mp hl
    refine (hv.hole rfl hx).wrap (word :: (ms ++ name :: (ds ++ [equal]))) [semicolon]
      (fun us => word :: (ms ++ name :: (ds ++ equal :: (us ++ [semicolon])))) (by simp)
      fun us e' he' => ⟨_, .letStmt hw hm hn hd he he' hs, fun z hz => ?_⟩
    -- what comes before and behind the value stays
    show Core.Stmt.letStmt {} _ _ (plainExpr e') = _
    rw [hz]
    rfl
  | @exprStmt semicolon ts e _ he hs =>
    subst hl
    refine (he.hole rfl hx).wrap [] [semicolon] (fun us => us ++ [semicolon]) (by simp)
      fun us e' he' => ⟨_, .exprStmt he' hs, fun z hz => ?_⟩
    show Core.Stmt.exprStmt {} (plainExpr e') = _
    rw [hz]
    rfl

/-- The first identity behind those of a statement. -/
def behindStmt (c : Lowering) (n : NodeId) (s : Syntax.Stmt) : NodeId := ((lowerStmt c s).number n).2

/-- A replacement in a statement leaves those behind it alone. -/
theorem replace_laterStmts {c : Lowering} {n : NodeId} {s : Syntax.Stmt} {ss : List Syntax.Stmt}
    {z : Core.Expr} (hx : x ∈ ((lowerStmt c s).number n).1.expr.walk) :
    (numberedStmts c (behindStmt c n s) ss).map (Stmt.replace x.id z)
      = numberedStmts c (behindStmt c n s) ss := by
  refine (List.map_congr_left fun t ht => ?_).trans (List.map_id _)
  refine Stmt.replace_of_notMem fun y hy => ?_
  -- their identities are behind those of the statement
  have hlower := (Stmt.numbered_numberAll (ss.map (lowerStmt c)) (behindStmt c n s)).lower y
    (List.mem_flatMap.mpr ⟨t, ht, hy⟩)
  have hupper := (Stmt.numbered_number (lowerStmt c s) n).upper x hx
  exact Int.ne_of_gt (Int.lt_of_lt_of_le hupper hlower)

/-- A replacement in later statements leaves the first one alone. -/
theorem replace_earlierStmt {c : Lowering} {n : NodeId} {s : Syntax.Stmt} {ss : List Syntax.Stmt}
    {z : Core.Expr}
    (hx : x ∈ (numberedStmts c (behindStmt c n s) ss).flatMap fun t => t.expr.walk) :
    Stmt.replace x.id z ((lowerStmt c s).number n).1 = ((lowerStmt c s).number n).1 := by
  refine Stmt.replace_of_notMem fun y hy => ?_
  have hlower := (Stmt.numbered_numberAll (ss.map (lowerStmt c)) (behindStmt c n s)).lower x hx
  have hupper := (Stmt.numbered_number (lowerStmt c s) n).upper y hy
  exact Int.ne_of_lt (Int.lt_of_lt_of_le hupper hlower)

theorem IsHeld.mem_flatMap {α : Type} {f : α → Core.Expr} {as : List α}
    (h : IsHeld x (as.flatMap fun a => (f a).walk)) : x ∈ as.flatMap fun a => (f a).walk := by
  obtain ⟨-, y, hy, hx⟩ := h
  obtain ⟨a, ha, hy⟩ := List.mem_flatMap.mp hy
  exact List.mem_flatMap.mpr
    ⟨a, ha, Expr.walk_of_inside (Expr.inside_trans _ hy (inside_of_candidate hx))⟩

/-- **A closure that is an argument somewhere in a body.** -/
theorem IsStmts.hole {us : List Token} {ss : List Syntax.Stmt} {late : List LateFault}
    (h : IsStmts us ss late) (hl : late = []) {c : Lowering} {n : NodeId}
    (hx : IsHeld x ((numberedStmts c n ss).flatMap fun s => s.expr.walk)) :
    HasHole IsStmts us x fun z ss' => ss'.map plainStmt
      = ((numberedStmts c n ss).map (Stmt.replace x.id z)).map Core.Stmt.bare := by
  induction h generalizing n with
  | nil => nomatch hx.2.choose_spec.1
  | @cons ts us s others _ _ hs hss ih =>
    obtain ⟨rfl, rfl⟩ := List.append_eq_nil_iff.mp hl
    have hsplit : numberedStmts c n (s :: others)
        = ((lowerStmt c s).number n).1 :: numberedStmts c (behindStmt c n s) others := rfl
    rw [hsplit] at hx ⊢
    simp only [List.flatMap_cons, List.map_cons] at hx ⊢
    -- in the first statement, and the later ones stay; or in a later one, and the first stays
    rcases isHeld_append.mp hx with hx | hx
    · refine (hs.hole rfl hx).wrap [] us (· ++ us) (by simp) fun us' s' hs' =>
        ⟨s' :: others, .cons hs' hss, fun z hz => ?_⟩
      rw [List.map_cons, hz, replace_laterStmts (Expr.walk_of_inside hx.mem_inside),
        numberedStmts_bare]
    · refine (ih rfl hx).wrap ts [] (ts ++ ·) (by simp) fun us' ss' hss' =>
        ⟨s :: ss', .cons hs hss', fun z hz => ?_⟩
      rw [List.map_cons, hz, replace_earlierStmt hx.mem_flatMap, Stmt.bare_number, bare_lowerStmt]

/-! ### Functions -/

/-- A closure that is an argument somewhere in a function. -/
theorem IsFunction.hole {inMethod : Bool} {ts : List Token} {f : FunctionDef}
    {body : List Syntax.Stmt} (h : IsFunction inMethod ts f []) (hbody : f.body = some body)
    {c : Lowering} {n : NodeId} (hx : IsHeld x ((lowerFunction c f body).number n).1.walk) :
    HasHole (IsFunction inMethod) ts x fun z f' => plainFunction f'
      = .ok (Function.replace x.id z ((lowerFunction c f body).number n).1).bare := by
  -- there are no late faults, so the function is taken apart with a list of them that is empty
  generalize hl : ([] : List LateFault) = late at h
  obtain @⟨us, isUnsafe, fn, op, ns, ps, rs, bs, path, params, ret, _, l, l', l'', hu, hf, hn, ho,
    hp, hr, hb⟩ := h
  obtain rfl : _ = some body := hbody
  simp only [List.nil_eq, List.append_eq_nil_iff] at hl
  obtain ⟨rfl, rfl, rfl⟩ := hl
  cases hb with
  | @body brace ts _ _ hk hs =>
    refine (hs.hole rfl hx).wrap (us ++ fn :: (ns ++ op :: (ps ++ (rs ++ [brace])))) []
      (fun ts => us ++ fn :: (ns ++ op :: (ps ++ (rs ++ brace :: ts)))) (by simp)
      fun ts ss' hss' => ⟨_, .mk hu hf hn ho hp hr (.body hk hss'), fun z hz => ?_⟩
    refine congrArg Except.ok ?_
    rw [Function.replace, Function.bare, Function.bare]
    -- parameters and statements are all that numbering could change
    congr 1
    · show (lowerParams {} _).map Core.Param.bare
        = (Core.Param.numberAll (n + 1) (lowerParams c _)).1.map Core.Param.bare
      rw [Core.Param.bare_numberAll, bare_lowerParams c]
      rfl
    · refine congrArg (Block.mk 0) ?_
      show (ss'.map (lowerStmt {})).map Core.Stmt.bare = _
      rw [bare_lowerStmts]
      exact hz

/-! ### Items -/

/-- The sorts of items. -/
inductive ItemSort where
  | struct
  | trait
  | impl
  | function
deriving DecidableEq

/-- The sort of an item. -/
def Item.sort : Item → ItemSort
  | .structDef _ => .struct
  | .traitDef _ => .trait
  | .implDef _ => .impl
  | .function _ => .function

/-- The functions of an item. -/
def Item.functions : Item → List FunctionDef
  | .structDef _ => []
  | .traitDef d => d.methods
  | .implDef d => d.methods
  | .function f => [f]

/-- The functions in the items of one sort. -/
def functionsOf (sort : ItemSort) (items : List Item) : List FunctionDef :=
  items.flatMap fun i => if i.sort = sort then i.functions else []

private theorem flatMap_filterMap {α β γ : Type} (f : α → Option β) (g : β → List γ)
    (as : List α) : (as.filterMap f).flatMap g = as.flatMap fun a => ((f a).map g).getD [] := by
  induction as with
  | nil => rfl
  | cons a as ih =>
    rw [List.flatMap_cons, ← ih]
    cases hf : f a with
    | none => rw [List.filterMap_cons_none hf]; rfl
    | some b => rw [List.filterMap_cons_some hf]; rfl

theorem traitMethods_ofItems (source : String) (items : List Item) :
    (Program.ofItems source items).traits.flatMap (·.methods) = functionsOf .trait items := by
  refine (flatMap_filterMap _ _ items).trans (congrArg (List.flatMap · items) (funext fun i => ?_))
  cases i <;> rfl

theorem implMethods_ofItems (source : String) (items : List Item) :
    (Program.ofItems source items).impls.flatMap (·.methods) = functionsOf .impl items := by
  refine (flatMap_filterMap _ _ items).trans (congrArg (List.flatMap · items) (funext fun i => ?_))
  cases i <;> rfl

theorem functions_ofItems (source : String) (items : List Item) :
    (Program.ofItems source items).functions = functionsOf .function items := by
  refine (List.flatMap_singleton' _).symm.trans ((flatMap_filterMap _ _ items).trans ?_)
  refine congrArg (List.flatMap · items) (funext fun i => ?_)
  cases i <;> rfl

theorem allFunctions_ofItems (source : String) (items : List Item) :
    allFunctions (.ofItems source items)
      = functionsOf .trait items ++ functionsOf .impl items ++ functionsOf .function items := by
  rw [allFunctions, traitMethods_ofItems, implMethods_ofItems, functions_ofItems]

/-- `ts` are the tokens of a construct with a function among them. Where another function stands,
the construct becomes what `Becomes` says. -/
def HasFunction {α : Type} (R : List Token → α → List LateFault → Prop) (ts : List Token)
    (f : FunctionDef) (Becomes : FunctionDef → α → Prop) : Prop :=
  ∃ before F behind inMethod, ts = before ++ (F ++ behind) ∧ IsFunction inMethod F f [] ∧
    ∀ F' f', IsFunction inMethod F' f' [] → ∃ a, R (before ++ (F' ++ behind)) a [] ∧ Becomes f' a

theorem HasFunction.wrap {α β : Type} {R : List Token → α → List LateFault → Prop}
    {R' : List Token → β → List LateFault → Prop} {ts : List Token} {f : FunctionDef}
    {P : FunctionDef → α → Prop} {P' : FunctionDef → β → Prop} (h : HasFunction R ts f P)
    (before behind : List Token) (frame : List Token → List Token)
    (hframe : ∀ us, frame us = before ++ (us ++ behind))
    (hstep : ∀ us a, R us a [] → ∃ b, R' (frame us) b [] ∧ ∀ f', P f' a → P' f' b) :
    HasFunction R' (frame ts) f P' := by
  obtain ⟨X, F, Y, m, rfl, hF, hex⟩ := h
  -- the same function among more tokens
  refine ⟨before ++ X, F, Y ++ behind, m, ?_, hF, fun F' f' hf' => ?_⟩
  · rw [hframe]
    simp only [List.append_assoc]
  · obtain ⟨a, ha, hP⟩ := hex F' f' hf'
    obtain ⟨b, hb, hP'⟩ := hstep _ a ha
    refine ⟨b, ?_, hP' f' hP⟩
    rw [hframe] at hb
    simpa only [List.append_assoc] using hb

/-- A function among the methods of a trait or an impl can be exchanged. -/
theorem IsMethods.split {ts : List Token} {ms : List FunctionDef} {late : List LateFault}
    (h : IsMethods ts ms late) (hl : late = []) {f : FunctionDef} {fs gs : List FunctionDef}
    (hms : ms = fs ++ f :: gs) :
    HasFunction IsMethods ts f fun f' ms' => ms' = fs ++ f' :: gs := by
  induction h generalizing fs with
  | nil => simp at hms
  | @cons ts us g others _ _ hg hothers ih =>
    obtain ⟨rfl, rfl⟩ := List.append_eq_nil_iff.mp hl
    -- the first method is the one that is exchanged, or it is in front of it
    cases fs with
    | nil =>
      obtain ⟨rfl, rfl⟩ := List.cons.inj hms
      exact ⟨[], ts, us, true, rfl, hg, fun F' f' hf' => ⟨f' :: others, .cons hf' hothers, rfl⟩⟩
    | cons k fs =>
      obtain ⟨rfl, hrest⟩ := List.cons.inj hms
      exact (ih rfl hrest).wrap ts [] (ts ++ ·) (by simp) fun us' ms' hms' =>
        ⟨g :: ms', .cons hg hms', fun f' he => congrArg (g :: ·) he⟩

/-- Where one function of an item is exchanged, the item keeps its sort and the other functions. -/
theorem IsItem.split {ts : List Token} {i : Item} {late : List LateFault} (h : IsItem ts i late)
    (hl : late = []) {f : FunctionDef} {fs gs : List FunctionDef}
    (hi : i.functions = fs ++ f :: gs) :
    HasFunction IsItem ts f fun f' i' => i'.sort = i.sort ∧ i'.functions = fs ++ f' :: gs := by
  cases h with
  | structDef => simp [Item.functions] at hi
  | @traitDef word op ns ms path methods _ hk hn ho hm =>
    exact (hm.split hl hi).wrap (word :: (ns ++ [op])) [] (fun us => word :: (ns ++ op :: us))
      (by simp) fun us ms' hms' => ⟨_, .traitDef hk hn ho hms', fun f' he => ⟨rfl, he⟩⟩
  | @inherentImpl word op us ms target methods _ _ hk ht ho hm =>
    obtain ⟨rfl, rfl⟩ := List.append_eq_nil_iff.mp hl
    exact (hm.split rfl hi).wrap (word :: (us ++ [op])) [] (fun vs => word :: (us ++ op :: vs))
      (by simp) fun vs ms' hms' => ⟨_, .inherentImpl hk ht ho hms', fun f' he => ⟨rfl, he⟩⟩
  | @traitImpl word forWord op ns us ms path target methods _ _ hk hn hw ht ho hm =>
    obtain ⟨rfl, rfl⟩ := List.append_eq_nil_iff.mp hl
    exact (hm.split rfl hi).wrap (word :: (ns ++ forWord :: (us ++ [op]))) []
      (fun vs => word :: (ns ++ forWord :: (us ++ op :: vs))) (by simp) fun vs ms' hms' =>
      ⟨_, .traitImpl hk hn hw ht ho hms', fun f' he => ⟨rfl, he⟩⟩
  | @function _ g _ hg =>
    subst hl
    -- a function on its own is the only one of its item
    obtain ⟨rfl, rfl, rfl⟩ : fs = [] ∧ g = f ∧ gs = [] := by
      cases fs with
      | nil =>
        obtain ⟨hg, hgs⟩ := List.cons.inj (show [g] = f :: gs from hi)
        exact ⟨rfl, hg, hgs.symm⟩
      | cons k fs => simp [Item.functions] at hi
    exact ⟨[], ts, [], false, by simp, hg, fun F' f' hf' =>
      ⟨.function f', by simpa using IsItem.function hf', rfl, rfl⟩⟩

/-- An element of two lists that follow each other stands in the one or in the other. -/
private theorem append_eq_split {α : Type} {as bs cs ds : List α} {a : α}
    (h : as ++ bs = cs ++ a :: ds) :
    (∃ ds', as = cs ++ a :: ds' ∧ ds = ds' ++ bs) ∨
      ∃ cs', cs = as ++ cs' ∧ bs = cs' ++ a :: ds := by
  rcases List.append_eq_append_iff.mp h with ⟨cs', rfl, hb⟩ | ⟨as', rfl, ha⟩
  · exact .inr ⟨cs', rfl, hb⟩
  -- the first list ends right in front of the element, or behind it
  · cases as' with
    | nil => exact .inr ⟨[], by simp, by simpa using ha.symm⟩
    | cons k as' =>
      obtain ⟨rfl, rfl⟩ := List.cons.inj ha
      exact .inl ⟨as', rfl, rfl⟩

/-- **A function of a text** can be exchanged for another one. All other functions stay. -/
theorem IsItems.split {ts : List Token} {items : List Item} {late : List LateFault}
    (h : IsItems ts items late) (hl : late = []) {sort : ItemSort} {f : FunctionDef}
    {fs gs : List FunctionDef} (hf : functionsOf sort items = fs ++ f :: gs) :
    HasFunction IsItems ts f fun f' items' => functionsOf sort items' = fs ++ f' :: gs ∧
      ∀ sort', sort' ≠ sort → functionsOf sort' items' = functionsOf sort' items := by
  induction h generalizing fs with
  | nil => simp [functionsOf] at hf
  | @cons ts us i others _ _ hi hothers ih =>
    obtain ⟨rfl, rfl⟩ := List.append_eq_nil_iff.mp hl
    have hcons (sort' : ItemSort) (j : Item) (js : List Item) : functionsOf sort' (j :: js)
      = (if j.sort = sort' then j.functions else []) ++ functionsOf sort' js := rfl
    rw [hcons] at hf
    -- the function is one of this item's, or of a later one's
    rcases append_eq_split hf with ⟨gs', hhere, rfl⟩ | ⟨fs', rfl, hthere⟩
    -- only an item of this sort gives functions to the list
    · have hsort : i.sort = sort := by
        by_cases hs : i.sort = sort
        · exact hs
        · rw [if_neg hs] at hhere
          simp at hhere
      rw [if_pos hsort] at hhere
      refine (hi.split rfl hhere).wrap [] us (· ++ us) (by simp) fun us' i' hi' =>
        ⟨i' :: others, .cons hi' hothers, ?_⟩
      rintro f' ⟨hs', hfs'⟩
      refine ⟨?_, fun sort' hne => ?_⟩
      · rw [hcons, if_pos (hs'.trans hsort), hfs', List.append_assoc]
        rfl
      · rw [hcons, hcons, hs', if_neg (hsort ▸ hne.symm), if_neg (hsort ▸ hne.symm)]
    · refine (ih rfl hthere).wrap ts [] (ts ++ ·) (by simp) fun us' items' hitems' =>
        ⟨i :: items', .cons hi hitems', ?_⟩
      rintro f' ⟨hfs', hkeep⟩
      refine ⟨?_, fun sort' hne => ?_⟩
      · rw [hcons, hfs', List.append_assoc]
      · rw [hcons, hcons, hkeep sort' hne]

/-- The same for all functions of a program in their order. -/
theorem IsItems.split_all {ts : List Token} {items : List Item} (h : IsItems ts items [])
    {source source' : String} {f : FunctionDef} {fs gs : List FunctionDef}
    (hf : allFunctions (.ofItems source items) = fs ++ f :: gs) :
    HasFunction IsItems ts f fun f' items' =>
      allFunctions (.ofItems source' items') = fs ++ f' :: gs := by
  rw [allFunctions_ofItems] at hf
  -- the function is in one of the three lists, and the other two stay
  have hpart {sort : ItemSort} {fs' gs' : List FunctionDef}
      (hf' : functionsOf sort items = fs' ++ f :: gs')
      (hall : ∀ f' items', functionsOf sort items' = fs' ++ f' :: gs' →
        (∀ sort', sort' ≠ sort → functionsOf sort' items' = functionsOf sort' items) →
        functionsOf .trait items' ++ functionsOf .impl items' ++ functionsOf .function items'
          = fs ++ f' :: gs) :
      HasFunction IsItems ts f fun f' items' =>
        allFunctions (.ofItems source' items') = fs ++ f' :: gs := by
    refine (h.split rfl hf').wrap [] [] id (by simp) fun us items' hitems' => ⟨items', hitems', ?_⟩
    rintro f' ⟨hsort, hkeep⟩
    rw [allFunctions_ofItems]
    exact hall f' items' hsort hkeep
  rcases append_eq_split hf with ⟨gs', hmethods, rfl⟩ | ⟨fs', rfl, hfunctions⟩
  · rcases append_eq_split hmethods with ⟨gs'', htraits, rfl⟩ | ⟨fs'', rfl, himpls⟩
    · refine hpart htraits fun f' items' hs hkeep => ?_
      rw [hs, hkeep .impl (by decide), hkeep .function (by decide)]
      simp only [List.append_assoc, List.cons_append]
    · refine hpart himpls fun f' items' hs hkeep => ?_
      rw [hs, hkeep .trait (by decide), hkeep .function (by decide)]
      simp only [List.append_assoc, List.cons_append]
  · refine hpart hfunctions fun f' items' hs hkeep => ?_
    rw [hs, hkeep .trait (by decide), hkeep .impl (by decide)]
    simp only [List.append_assoc]

/-! ### All functions of a program -/

/-- Lowered functions have identities from the first one on. -/
theorem lowerFunctions_lower {file : Option String} {n : NodeId} {fs : List FunctionDef}
    {F : Core.Function} (hF : .ok F ∈ lowerFunctions file n fs) : ∀ y ∈ F.walk, n ≤ y.id := by
  induction fs generalizing n with
  | nil => exact absurd hF List.not_mem_nil
  | cons f fs ih =>
    rw [lowerFunctions] at hF
    split at hF
    · rcases List.mem_cons.mp hF with hF | hF
      · cases hF
      · exact ih hF
    · next body _ =>
      rcases List.mem_cons.mp hF with hF | hF
      · obtain rfl := Except.ok.inj hF
        exact (Function.numbered_number (lowerFunction { file := file } f body) n).lower
      · intro y hy
        have hlt := (lowerFunction { file := file } f body).lt_number n
        exact Int.le_trans (Int.le_of_lt hlt) (ih hF y hy)

/-- A replacement in one function leaves the others alone. -/
theorem lowerFunctions_replace {file : Option String} {n : NodeId} {fs : List FunctionDef}
    {F : Core.Function} (hF : .ok F ∈ lowerFunctions file n fs) (hx : x ∈ F.walk) :
    ∃ before f behind body k, fs = before ++ f :: behind ∧ f.body = some body ∧
      F = ((lowerFunction { file := file } f body).number k).1 ∧
      ∀ z, (lowerFunctions file n fs).map (Except.map fun G => (G.replace x.id z).bare)
        = before.map plainFunction ++ .ok (F.replace x.id z).bare :: behind.map plainFunction := by
  induction fs generalizing n with
  | nil => exact absurd hF List.not_mem_nil
  | cons f fs ih =>
    rw [lowerFunctions] at hF ⊢
    cases hbody : f.body with
    | none =>
      rw [hbody] at hF
      rcases List.mem_cons.mp hF with hF | hF
      -- a function without a body gives no tree
      · cases hF
      · obtain ⟨before, g, behind, body, k, rfl, hg, hk, hz⟩ := ih hF
        refine ⟨f :: before, g, behind, body, k, rfl, hg, hk, fun z => ?_⟩
        rw [List.map_cons, hz, List.map_cons, plainFunction, hbody]
        rfl
    | some body =>
      rw [hbody] at hF
      dsimp only at hF ⊢
      generalize hG : (lowerFunction { file := file } f body).number n = G at hF ⊢
      have hnumbered := Function.numbered_number (lowerFunction { file := file } f body) n
      rw [hG] at hnumbered
      rcases List.mem_cons.mp hF with hF | hF
      · -- the functions behind have larger identities
        obtain rfl := Except.ok.inj hF
        refine ⟨[], f, fs, body, n, rfl, hbody, (congrArg Prod.fst hG).symm, fun z => ?_⟩
        rw [List.map_cons, List.map_nil, List.nil_append, ← lowerFunctions_bare file G.2 fs]
        refine congrArg (_ :: ·) (List.map_congr_left fun r hr => ?_)
        cases r with
        | error e => rfl
        | ok H =>
          refine congrArg (fun H => Except.ok (Function.bare H))
            (Function.replace_of_notMem fun y hy => ?_)
          have hlower := lowerFunctions_lower hr y hy
          exact Int.ne_of_gt (Int.lt_of_lt_of_le (hnumbered.upper x hx) hlower)
      · -- the function in front has smaller ones
        obtain ⟨before, g, behind, body', k, rfl, hg, hk, hz⟩ := ih hF
        refine ⟨f :: before, g, behind, body', k, rfl, hg, hk, fun z => ?_⟩
        have hkeep : G.1.replace x.id z = G.1 := Function.replace_of_notMem fun y hy =>
          Int.ne_of_lt (Int.lt_of_lt_of_le (hnumbered.upper y hy) (lowerFunctions_lower hF x hx))
        have hbare : G.1.bare = (lowerFunction {} f body).bare := by
          rw [← hG, Function.bare_number, bare_lowerFunction]
        rw [List.map_cons, hz, List.map_cons, plainFunction, hbody, Except.map, hkeep, hbare]
        rfl

/-- **A closure that is an argument somewhere in a text** stands where any expression can stand.
With another expression in its place, all functions stay the same but for that node. -/
theorem IsItems.hole {ts : List Token} {items : List Item} (h : IsItems ts items [])
    {source source' : String} {file : Option String} {n : NodeId} {F : Core.Function}
    (hF : .ok F ∈ lowerFunctions file n (allFunctions (.ofItems source items)))
    (hx : IsHeld x F.walk) :
    HasHole IsItems ts x fun z items' =>
      (allFunctions (.ofItems source' items')).map plainFunction
        = (lowerFunctions file n (allFunctions (.ofItems source items))).map
          (Except.map fun G => (G.replace x.id z).bare) := by
  obtain ⟨fs, f, gs, body, k, hfs, hbody, rfl, hz⟩ := lowerFunctions_replace hF hx.mem_flatMap
  have hsplit : HasFunction IsItems ts f fun f' items' =>
      allFunctions (.ofItems source' items') = fs ++ f' :: gs := h.split_all hfs
  obtain ⟨X, Ts, Y, m, rfl, hf, hexchange⟩ := hsplit
  have hhole := hf.hole hbody hx
  -- the hole in the function is one in the text, whose other functions stay
  refine hhole.wrap X Y (fun us => X ++ (us ++ Y)) (fun us => rfl) fun us f' hf' => ?_
  obtain ⟨items', hitems', he⟩ := hexchange us f' hf'
  refine ⟨items', hitems', fun z hplain => ?_⟩
  rw [he, hz, List.map_append, List.map_cons, hplain]

end ClosureLint.Syntax
