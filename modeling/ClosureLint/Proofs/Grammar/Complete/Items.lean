import ClosureLint.Proofs.Grammar.Complete.Exprs
import ClosureLint.Syntax.Parse

/-!
# Items that follow the grammar are read

* `readFunction_complete`, `readItem_complete` — functions and other items.
* `readItems_complete` — all items of a text.
* `parse_complete` — a text whose tokens form items without late faults is a program.
-/

namespace ClosureLint.Syntax

/-! ### Parameters -/

/-- The word that ends a receiver. -/
theorem readSelf_complete {word : Token} (h : word.kind = .selfWord) (start : Pos)
    (form : ReceiverForm) (rest : List Token) :
    Reads (readSelf start form) (word :: rest) ⟨.between start word.stop, form⟩ [] word.stop
      rest := by
  unfold Reads
  simp only [readSelf, expect_cons h, ok_bind]
  exact ⟨_, rfl, rfl, rfl, rfl, rfl⟩

/-- The kinds that begin a parameter. -/
def paramStarts : List TokenKind := [.mutWord, .selfWord, .ampersand, .name]

/-- What a parameter begins with. -/
theorem IsParam.starts {ts : List Token} {p : WrittenParam} {late : List LateFault}
    (h : IsParam ts p late) : StartsIn paramStarts ts := by
  cases h with
  | value hm hw =>
    cases hm with
    | absent => exact .cons hw (by decide) _
    | present hk => exact .cons hk (by decide) _
  | ref hk _ _ | typed hk _ _ | named hk _ _ => exact .cons hk (by decide) _

/-- **A parameter that follows the grammar is read.** A receiver without a type must not be followed by
a colon. -/
theorem readParam_complete {us : List Token} {p : WrittenParam} {late : List LateFault}
    (h : IsParam us p late) (rest : List Token) (hrest : TypeEnds rest)
    (hcolon : nextIs .colon rest = false) :
    Reads readParam (us ++ rest) p late (stopOf us) rest := by
  cases h with
  | @value ms isMut word hm hw =>
    cases hm with
    | absent =>
      unfold Reads
      simp only [List.nil_append, List.cons_append]
      rw [readParam]
      simp only [hw, hcolon]
      exact ⟨_, rfl, rfl, rfl, rfl, rfl⟩
    | @present t hk =>
      obtain ⟨_, hr⟩ := (readSelf_complete hw t.start .value rest).eq_ok
      unfold Reads
      simp only [List.nil_append, List.cons_append]
      rw [readParam]
      simp only [hk, hr, ok_bind]
      exact ⟨_, rfl, rfl, rfl, rfl, rfl⟩
  -- whether `mut` was there decides on the form of the receiver
  | @ref amp word ms isMut hk hm hw =>
    have hdrop : dropIf .mutWord (ms ++ word :: rest) = (isMut, word :: rest) :=
      hm.dropIf (notNext_cons (by rw [hw]; decide) _)
    have hread : Reads (readSelf amp.start (if (dropIf .mutWord (ms ++ word :: rest)).1
        then .refMut else .ref)) (dropIf .mutWord (ms ++ word :: rest)).2
        ⟨.between amp.start word.stop, if isMut then .refMut else .ref⟩ [] word.stop rest := by
      rw [hdrop]
      exact readSelf_complete hw _ _ _
    obtain ⟨_, hr⟩ := hread.eq_ok
    simp only [List.cons_append, List.append_assoc, List.nil_append]
    unfold Reads
    rw [readParam]
    simp only [hk, hr, ok_bind]
    refine ⟨_, rfl, ?_, rfl, ?_, rfl⟩
    all_goals simp [extentOf, Read.behind, Read.behindOpt, stopOf_cons]
  | @typed word colon ts t _ hw hc ht =>
    obtain ⟨_, he⟩ := (readType_complete ht rest hrest).eq_ok
    simp only [List.cons_append]
    unfold Reads
    rw [readParam]
    simp only [hw, nextIs_cons, hc, beq_self_eq_true, if_true, expect_cons hc, ok_bind, Read.token,
      he]
    refine ⟨_, rfl, ?_, ?_, ?_, rfl⟩
    all_goals simp [extentOf, Read.behind, Read.seq, stopOf_cons, ht.starts.ne_nil]
  | @named name colon ts t _ hn hc ht =>
    obtain ⟨_, he⟩ := (readType_complete ht rest hrest).eq_ok
    simp only [List.cons_append]
    unfold Reads
    rw [readParam]
    simp only [hn, expect_cons hn, expect_cons hc, ok_bind, Read.token, he]
    refine ⟨_, rfl, ?_, ?_, ?_, rfl⟩
    all_goals simp [extentOf, Read.seq, stopOf_cons, ht.starts.ne_nil]

/-- Parameters have their closing parenthesis. -/
theorem IsParams.ne_nil {inMethod : Bool} {index : Nat} {ts : List Token}
    {ps : List WrittenParam} {late : List LateFault} (h : IsParams inMethod index ts ps late) :
    ts ≠ [] := by
  cases h <;> simp

/-- The parameters of a function, with the parenthesis that closes them. -/
theorem readParams_complete {inMethod : Bool} {index : Nat} {us : List Token}
    {ps : List WrittenParam} {late : List LateFault} (h : IsParams inMethod index us ps late)
    (rest : List Token) :
    Reads (readParams inMethod index) (us ++ rest) ps late (stopOf us) rest := by
  induction h with
  | @nil _ cl hc =>
    unfold Reads
    rw [List.singleton_append, readParams]
    simp only [nextIs_cons, hc, beq_self_eq_true, if_true, expect_cons hc, ok_bind]
    exact ⟨_, rfl, rfl, rfl, rfl, rfl⟩
  | @last index cl ts p late hp hc =>
    have hends : TypeEnds (cl :: rest) := typeEnds_cons hc (by decide) _
    have hcolon : nextIs .colon (cl :: rest) = false := by rw [nextIs_cons, hc]; rfl
    obtain ⟨_, hr⟩ := (readParam_complete hp _ hends hcolon).eq_ok
    have hparen := hp.starts.nextIs (k := .rightParen) (by decide) (cl :: rest)
    rw [List.append_assoc, List.singleton_append]
    unfold Reads
    rw [readParams]
    simp only [hparen, hr, ok_bind, nextIs_cons, hc, expect_cons hc, Read.token]
    refine ⟨_, rfl, rfl, ?_, ?_, rfl⟩
    -- a receiver in the wrong place is a late fault of the parameter
    · cases p <;> simp [Read.seq, Read.withLate, paramLate]
    · simp [Read.seq]
  | @cons index comma ts us p others late late' hp hc hps ih =>
    have hends : TypeEnds (comma :: (us ++ rest)) := typeEnds_cons hc (by decide) _
    have hcolon : nextIs .colon (comma :: (us ++ rest)) = false := by rw [nextIs_cons, hc]; rfl
    obtain ⟨_, hr⟩ := (readParam_complete hp _ hends hcolon).eq_ok
    obtain ⟨_, hrs⟩ := ih.eq_ok
    have hparen := hp.starts.nextIs (k := .rightParen) (by decide) (comma :: (us ++ rest))
    rw [List.append_assoc, List.cons_append]
    unfold Reads
    rw [readParams]
    simp only [hparen, hr, ok_bind, nextIs_cons, hc, beq_self_eq_true, if_true, expect_cons hc,
      Read.token, hrs]
    refine ⟨_, rfl, rfl, ?_, ?_, rfl⟩
    · cases p <;> simp [Read.seq, Read.withLate, paramLate]
    · simp [Read.seq, stopOf_cons, hps.ne_nil]

/-! ### Functions -/

/-- The end of a function begins with a semicolon or with its body. -/
theorem IsTail.starts {ts : List Token} {body : Option (List Stmt)} {late : List LateFault}
    (h : IsTail ts body late) : StartsIn [.semicolon, .leftBrace] ts := by
  cases h with
  | none hk | body hk _ => exact .cons hk (by decide) _

/-- **A function that follows the grammar is read.** -/
theorem readFunction_complete {inMethod : Bool} {us : List Token} {f : FunctionDef}
    {late : List LateFault} (h : IsFunction inMethod us f late) (rest : List Token) :
    Reads (readFunction inMethod) (us ++ rest) f late (stopOf us) rest := by
  obtain @⟨us, isUnsafe, fn, op, ns, ps, rs, bs, path, params, ret, body, l, l', l'', hu, hf, hn, ho,
    hp, hr, hb⟩ := h
  -- each part is read up to the token that the next one begins with
  have hdrop : dropIf .unsafeWord (us ++ fn :: (ns ++ op :: (ps ++ (rs ++ (bs ++ rest)))))
      = (isUnsafe, fn :: (ns ++ op :: (ps ++ (rs ++ (bs ++ rest))))) :=
    hu.dropIf (notNext_cons (by rw [hf]; decide) _)
  have hread : Reads (expect .fnWord)
      (dropIf .unsafeWord (us ++ fn :: (ns ++ op :: (ps ++ (rs ++ (bs ++ rest)))))).2 fn [] fn.stop
      (ns ++ op :: (ps ++ (rs ++ (bs ++ rest)))) := by
    rw [hdrop]
    exact expect_complete hf _
  obtain ⟨_, hfn⟩ := hread.eq_ok
  have hcolons : NotNext [.doubleColon] (op :: (ps ++ (rs ++ (bs ++ rest)))) :=
    notNext_cons (by rw [ho]; decide) _
  obtain ⟨_, hns⟩ := (readPath_complete hn hcolons).eq_ok
  obtain ⟨_, hps⟩ := (readParams_complete hp (rs ++ (bs ++ rest))).eq_ok
  have hends : TypeEnds (bs ++ rest) := hb.starts.notNext (by decide) rest
  obtain ⟨_, hrs⟩ := (readRet_complete hr (stopOf ps) _ hends).eq_ok
  have hstart : startOf (us ++ fn :: (ns ++ op :: (ps ++ (rs ++ (bs ++ rest)))))
      = startOf (us ++ fn :: (ns ++ op :: (ps ++ (rs ++ bs)))) := by
    cases us <;> rfl
  simp only [List.append_assoc, List.cons_append]
  -- a semicolon in place of the body, or the body
  cases hb with
  | @none semicolon hs =>
    simp only [List.nil_append, List.cons_append] at hfn hns hps hrs hdrop hstart ⊢
    unfold Reads
    simp only [readFunction, hfn, hns, expect_cons ho, hps, hrs, ok_bind, Read.token, nextIs_cons,
      hs, beq_self_eq_true, if_true, expect_cons hs]
    refine ⟨_, rfl, ?_, ?_, ?_, rfl⟩
    all_goals
      simp [extentOf, Read.behindOpt, Read.seq, Read.seqOpt, hdrop, hstart, stopOf_cons,
        stopOf_append]
  | @body brace ts stmts _ hk hs =>
    obtain ⟨_, hss⟩ := (readStmts_complete hs rest).eq_ok
    simp only [List.cons_append] at hfn hns hps hrs hdrop hstart ⊢
    unfold Reads
    simp only [readFunction, hfn, hns, expect_cons ho, hps, hrs, ok_bind, Read.token, nextIs_cons,
      hk, expect_cons hk, hss]
    refine ⟨_, rfl, ?_, ?_, ?_, rfl⟩
    all_goals
      simp [extentOf, Read.behindOpt, Read.seq, Read.seqOpt, hdrop, hstart, stopOf_cons,
        stopOf_append, hs.ne_nil]

/-- What a function begins with. -/
theorem IsFunction.starts {inMethod : Bool} {ts : List Token} {f : FunctionDef}
    {late : List LateFault} (h : IsFunction inMethod ts f late) :
    StartsIn [.unsafeWord, .fnWord] ts := by
  obtain ⟨hu, hf, -, -, -, -, -⟩ := h
  cases hu with
  | absent => exact .cons hf (by decide) _
  | present hk => exact .cons hk (by decide) _

/-- Methods have their closing brace. -/
theorem IsMethods.ne_nil {ts : List Token} {ms : List FunctionDef} {late : List LateFault}
    (h : IsMethods ts ms late) : ts ≠ [] := by
  cases h with
  | nil => simp
  | cons hf _ => exact List.append_ne_nil_of_left_ne_nil hf.starts.ne_nil _

/-- The methods of a trait or an impl, with the brace that closes them. -/
theorem readMethods_complete {us : List Token} {ms : List FunctionDef} {late : List LateFault}
    (h : IsMethods us ms late) (rest : List Token) :
    Reads readMethods (us ++ rest) ms late (stopOf us) rest := by
  induction h with
  | @nil cl hc =>
    unfold Reads
    rw [List.singleton_append, readMethods]
    simp only [nextIs_cons, hc, beq_self_eq_true, if_true, expect_cons hc, ok_bind]
    exact ⟨_, rfl, rfl, rfl, rfl, rfl⟩
  | @cons ts us f others _ _ hf hms ih =>
    obtain ⟨_, hr⟩ := (readFunction_complete hf (us ++ rest)).eq_ok
    obtain ⟨_, hrs⟩ := ih.eq_ok
    have hbrace := hf.starts.nextIs (k := .rightBrace) (by decide) (us ++ rest)
    rw [List.append_assoc]
    unfold Reads
    rw [readMethods]
    simp only [hbrace, hr, ok_bind, hrs]
    refine ⟨_, rfl, rfl, rfl, ?_, rfl⟩
    simp [Read.seq, stopOf_append, hms.ne_nil]

/-- Methods between braces. -/
theorem readMethodBlock_complete {op : Token} {us : List Token} {ms : List FunctionDef}
    {late : List LateFault} (hk : op.kind = .leftBrace) (h : IsMethods us ms late)
    (rest : List Token) :
    Reads readMethodBlock (op :: (us ++ rest)) ms late (stopOf us) rest := by
  obtain ⟨_, hr⟩ := (readMethods_complete h rest).eq_ok
  unfold Reads
  simp only [readMethodBlock, expect_cons hk, ok_bind, Read.token, hr]
  exact ⟨_, rfl, rfl, rfl, rfl, rfl⟩

/-! ### Items -/

/-- Without `for` behind it the type is what the impl is for. -/
theorem readImpl_complete_inherent {op : Token} {ts ms : List Token} {target : TypeExpr}
    {methods : List FunctionDef} {late late' : List LateFault} (start : Pos)
    (ht : IsType ts target late) (ho : op.kind = .leftBrace) (hm : IsMethods ms methods late')
    (rest : List Token) :
    Reads (readImpl start) (ts ++ op :: (ms ++ rest))
      ⟨.between start (stopOf ms), target, none, methods⟩ (late' ++ late) (stopOf ms) rest := by
  have hends : TypeEnds (op :: (ms ++ rest)) := typeEnds_cons ho (by decide) _
  have hfor : nextIs .forWord (op :: (ms ++ rest)) = false := by rw [nextIs_cons, ho]; rfl
  obtain ⟨_, hts⟩ := (readType_complete ht _ hends).eq_ok
  obtain ⟨_, hms⟩ := (readMethodBlock_complete ho hm rest).eq_ok
  unfold Reads
  simp only [readImpl, hts, ok_bind, hfor]
  -- even a bare path is no trait without `for` behind it
  cases barePath? (ts ++ op :: (ms ++ rest)) target with
  | none | some =>
    simp only [hms, ok_bind]
    exact ⟨_, rfl, rfl, rfl, rfl, rfl⟩

/-- With `for` behind it the path is a trait. -/
theorem readImpl_complete_trait {word op : Token} {ns ts ms : List Token} {path : Path}
    {target : TypeExpr} {methods : List FunctionDef} {late late' : List LateFault} (start : Pos)
    (hn : IsPath ns path) (hw : word.kind = .forWord) (ht : IsType ts target late)
    (ho : op.kind = .leftBrace) (hm : IsMethods ms methods late') (rest : List Token) :
    Reads (readImpl start) (ns ++ word :: (ts ++ op :: (ms ++ rest)))
      ⟨.between start (stopOf ms), target, some path, methods⟩ (late' ++ late) (stopOf ms)
      rest := by
  have hends : TypeEnds (word :: (ts ++ op :: (ms ++ rest))) := typeEnds_cons hw (by decide) _
  have hends' : TypeEnds (op :: (ms ++ rest)) := typeEnds_cons ho (by decide) _
  -- what is read as a type is a path alone, which stands for the trait
  have hbare : barePath? (ns ++ word :: (ts ++ op :: (ms ++ rest)))
      (.named (extentOf ns) path []) = some path := by
    obtain ⟨t, ns, rfl, hk⟩ := hn.starts
    exact if_pos (beq_iff_eq.mpr (List.mem_singleton.mp hk))
  obtain ⟨_, hns⟩ := (readType_complete (.named hn) _ hends).eq_ok
  obtain ⟨_, hts⟩ := (readType_complete ht _ hends').eq_ok
  obtain ⟨_, hms⟩ := (readMethodBlock_complete ho hm rest).eq_ok
  unfold Reads
  simp only [readImpl, hns, ok_bind, hbare, nextIs_cons, hw, beq_self_eq_true, expect_cons hw,
    Read.token, hts, hms]
  exact ⟨_, rfl, rfl, rfl, rfl, rfl⟩

/-- An item that begins like a function is read as one. -/
theorem readItem_eq_function {ts : List Token} (h : StartsIn [.unsafeWord, .fnWord] ts)
    (rest : List Token) :
    readItem (ts ++ rest) = (do
      let item ← readFunction false (ts ++ rest)
      return item.giving (.function item.value)) := by
  obtain ⟨t, ts, rfl, hk⟩ := h
  rw [List.cons_append, readItem]
  rcases List.mem_cons.mp hk with hk | hk
  · simp only [hk]
  · simp only [List.mem_singleton.mp hk]

/-- **An item that follows the grammar is read.** -/
theorem readItem_complete {us : List Token} {i : Item} {late : List LateFault}
    (h : IsItem us i late) (rest : List Token) :
    Reads readItem (us ++ rest) i late (stopOf us) rest := by
  cases h with
  | @structDef word semicolon ns rs path target _ hk hn hr hs =>
    have hends : TypeEnds (semicolon :: rest) := typeEnds_cons hs (by decide) _
    -- what stands behind the name cannot carry on the path
    have hcolons : NotNext [.doubleColon] (rs ++ semicolon :: rest) := by
      cases hr with
      | absent => exact hends.mono (by decide)
      | present hk _ => exact notNext_cons (by rw [hk]; decide) _
    obtain ⟨_, hns⟩ := (readPath_complete hn hcolons).eq_ok
    obtain ⟨_, hrs⟩ := (readRet_complete hr (stopOf ns) _ hends).eq_ok
    simp only [List.cons_append, List.append_assoc, List.nil_append]
    unfold Reads
    rw [readItem]
    simp only [hk, readStruct, hns, hrs, ok_bind, expect_cons hs, Read.token]
    refine ⟨_, rfl, ?_, ?_, ?_, rfl⟩
    all_goals simp [extentOf, Read.behind, Read.seq, Read.seqOpt, stopOf_cons, stopOf_append]
  | @traitDef word op ns ms path methods _ hk hn ho hm =>
    have hcolons : NotNext [.doubleColon] (op :: (ms ++ rest)) :=
      notNext_cons (by rw [ho]; decide) _
    obtain ⟨_, hns⟩ := (readPath_complete hn hcolons).eq_ok
    obtain ⟨_, hms⟩ := (readMethodBlock_complete ho hm rest).eq_ok
    simp only [List.cons_append, List.append_assoc]
    unfold Reads
    rw [readItem]
    simp only [hk, readTrait, hns, hms, ok_bind]
    refine ⟨_, rfl, ?_, ?_, ?_, rfl⟩
    all_goals simp [extentOf, Read.behind, Read.seq, stopOf_cons, hm.ne_nil]
  | @inherentImpl word op ts ms target methods _ _ hk ht ho hm =>
    obtain ⟨_, hr⟩ := (readImpl_complete_inherent word.start ht ho hm rest).eq_ok
    simp only [List.cons_append, List.append_assoc]
    unfold Reads
    rw [readItem]
    simp only [hk, hr, ok_bind]
    refine ⟨_, rfl, ?_, rfl, ?_, rfl⟩
    all_goals simp [extentOf, Read.behind, stopOf_cons, hm.ne_nil]
  | @traitImpl word forWord op ns ts ms path target methods _ _ hk hn hw ht ho hm =>
    obtain ⟨_, hr⟩ := (readImpl_complete_trait word.start hn hw ht ho hm rest).eq_ok
    simp only [List.cons_append, List.append_assoc]
    unfold Reads
    rw [readItem]
    simp only [hk, hr, ok_bind]
    refine ⟨_, rfl, ?_, rfl, ?_, rfl⟩
    all_goals simp [extentOf, Read.behind, stopOf_cons, hm.ne_nil]
  | @function _ f _ hf =>
    obtain ⟨_, hr⟩ := (readFunction_complete hf rest).eq_ok
    unfold Reads
    rw [readItem_eq_function hf.starts rest, hr]
    exact ⟨_, rfl, rfl, rfl, rfl, rfl⟩

/-- An item takes some tokens. -/
theorem IsItem.ne_nil {ts : List Token} {i : Item} {late : List LateFault}
    (h : IsItem ts i late) : ts ≠ [] := by
  cases h with
  | structDef | traitDef | inherentImpl | traitImpl => exact List.cons_ne_nil _ _
  | function hf => exact hf.starts.ne_nil

/-- **The items of a text that follows the grammar are read.** -/
theorem readItems_complete {ts : List Token} {items : List Item} {late : List LateFault}
    (h : IsItems ts items late) : readItems ts = .ok (items, late) := by
  induction h with
  | nil =>
    rw [readItems]
    rfl
  | @cons ts us i others _ _ hi _ ih =>
    have hread := readItem_complete hi us
    obtain ⟨t, ts, rfl⟩ := List.exists_cons_of_ne_nil hi.ne_nil
    rw [List.cons_append] at hread ⊢
    obtain ⟨_, hr⟩ := hread.eq_ok
    rw [readItems, hr, ok_bind, ih]
    rfl

/-- **A text is a program** if its tokens form items without late faults. -/
theorem parse_complete {source : String} {items : List Item} (hlex : (lex source).stuck = none)
    (h : IsItems (lex source).tokens items []) : parse source = .ok (.ofItems source items) := by
  unfold parse ofLexed
  rw [readItems_complete h, hlex]
  rfl

end ClosureLint.Syntax
