import ClosureLint.Proofs.Core.Paths
import ClosureLint.Proofs.Types.Names

/-!
# Paths in a source text

Every path of a program that is read from a text is made of names, or it is the word `self`. So it has
segments, and there is no colon in any of them.

* `NamesAreWords` — what the lexer ensures of the tokens.
* `IsType.segmented`, `IsExpr.segmented`, `IsItem.segmented` — the paths of a construct, from its rules.
* `parse_segmented` — the paths of a program that is read.
-/

namespace ClosureLint.Syntax

/-- The texts of the names among the tokens are words. -/
def NamesAreWords (ts : List Token) : Prop := ∀ t ∈ ts, t.kind = .name → IsName t.text

namespace NamesAreWords

variable {t : Token} {ts us : List Token}

/-- What holds of all tokens holds of those behind the first, -/
theorem tail (h : NamesAreWords (t :: ts)) : NamesAreWords ts := (List.forall_mem_cons.mp h).2

/-- of those in front, -/
theorem left (h : NamesAreWords (ts ++ us)) : NamesAreWords ts := (List.forall_mem_append.mp h).1

/-- and of those behind them. -/
theorem right (h : NamesAreWords (ts ++ us)) : NamesAreWords us := (List.forall_mem_append.mp h).2

end NamesAreWords

variable {ts : List Token} {late : List LateFault}

/-- The segments of a path that is read are names. -/
theorem IsPath.segmented {p : Path} (h : IsPath ts p) (hn : NamesAreWords ts) : p.Segmented :=
  (h.written hn).segmented

/-! ### Types -/

mutual

/-- **The paths of a type** are made of names. One case for each rule, the tokens of a part being among
those of the whole. -/
theorem IsType.segmented {ts : List Token} {t : TypeExpr} {late : List LateFault}
    (h : IsType ts t late) (hn : NamesAreWords ts) : ∀ q ∈ t.paths, q.Segmented := by
  match h with
  | .ref _ _ ht => exact ht.segmented hn.tail.right
  | .array _ ht _ _ _ => exact ht.segmented hn.tail.left
  | .slice _ ht _ => exact ht.segmented hn.tail.left
  | .unit _ _ => exact List.forall_mem_nil _
  | .tuple _ ht _ hts =>
    exact List.forall_mem_append.mpr ⟨ht.segmented hn.tail.left, hts.segmented hn.tail.right.tail⟩
  | .paren _ ht _ => exact ht.segmented hn.tail.left
  -- the paths of a function type are those of its signature, `unsafe` or not
  | .unsafeFnPtr _ _ hs => exact hs.segmented hn.tail.tail true _
  | .fnPtr _ hs => exact hs.segmented hn.tail false _
  | .named hp => exact List.forall_mem_singleton.mpr (hp.segmented hn)
  | .generic hp _ hargs =>
    exact List.forall_mem_cons.mpr ⟨hp.segmented hn.left, hargs.segmented hn.right.tail⟩

/-- The paths in the signature of a function type. -/
theorem IsSignature.segmented {ts : List Token} {params : List TypeExpr} {ret : Option TypeExpr}
    {late : List LateFault} (h : IsSignature ts params ret late) (hn : NamesAreWords ts)
    (isUnsafe : Bool) (l : Loc) :
    ∀ q ∈ (TypeExpr.fnPtr l isUnsafe params ret).paths, q.Segmented := by
  match h with
  | .unit _ hts => exact hts.segmented hn.tail
  | .ret _ hts _ ht =>
    exact List.forall_mem_append.mpr ⟨hts.segmented hn.tail.left, ht.segmented hn.tail.right.tail⟩

/-- The paths in a list of types before a closing bracket. -/
theorem IsTypesClosing.segmented {ts : List Token} {types : List TypeExpr} {late : List LateFault}
    (h : IsTypesClosing ts types late) (hn : NamesAreWords ts) :
    ∀ q ∈ TypeExpr.pathsAll types, q.Segmented := by
  match h with
  | .nil _ => exact List.forall_mem_nil _
  | .last ht _ =>
    exact List.forall_mem_append.mpr ⟨ht.segmented hn.left, List.forall_mem_nil _⟩
  | .cons ht _ hts =>
    exact List.forall_mem_append.mpr ⟨ht.segmented hn.left, hts.segmented hn.right.tail⟩

/-- The paths in type arguments, of which there is one at least. -/
theorem IsTypeArgs.segmented {ts : List Token} {types : List TypeExpr} {late : List LateFault}
    (h : IsTypeArgs ts types late) (hn : NamesAreWords ts) :
    ∀ q ∈ TypeExpr.pathsAll types, q.Segmented := by
  match h with
  | .last ht _ =>
    exact List.forall_mem_append.mpr ⟨ht.segmented hn.left, List.forall_mem_nil _⟩
  | .cons ht _ hts =>
    exact List.forall_mem_append.mpr ⟨ht.segmented hn.left, hts.segmented hn.right.tail⟩

end

/-- The paths in a type that may be left out. -/
theorem IsOptionalType.segmented {k : TokenKind} {t : Option TypeExpr}
    (h : IsOptionalType k ts t late) (hn : NamesAreWords ts) :
    ∀ q ∈ optionalPaths t, q.Segmented := by
  cases h with
  | absent => exact List.forall_mem_nil _
  | present _ ht =>
    rw [optionalPaths_some]
    exact ht.segmented hn.tail

/-! ### Expressions -/

/-- The paths in the types that the parameters of a closure are declared with. -/
theorem IsClosureParams.segmented {ps : List ClosureParam} (h : IsClosureParams ts ps late)
    (hn : NamesAreWords ts) :
    ∀ q ∈ ps.flatMap fun p => optionalPaths p.declared, q.Segmented := by
  induction h with
  | nil => exact List.forall_mem_nil _
  | last hp =>
    -- the name of a parameter is no path: only its type counts
    obtain ⟨_, hd⟩ := hp
    rw [List.flatMap_singleton]
    exact hd.segmented hn.left.right
  | cons hp _ _ ih =>
    obtain ⟨_, hd⟩ := hp
    rw [List.flatMap_cons]
    exact List.forall_mem_append.mpr ⟨hd.segmented hn.left.right, ih hn.right.tail⟩

mutual

/-- **The paths of an expression** are made of names, apart from `self`. -/
theorem IsExpr.segmented {ts : List Token} {e : Expr} {late : List LateFault}
    (h : IsExpr ts e late) (hn : NamesAreWords ts) : ∀ q ∈ e.paths, q.Segmented := by
  match h with
  -- in the order of the text: parameters, result, body
  | .closure _ hp hr hb =>
    rw [Expr.paths]
    refine List.forall_mem_append.mpr ⟨hp.segmented hn.tail.left, List.forall_mem_append.mpr ?_⟩
    exact ⟨hr.segmented hn.tail.right.left, hb.segmented hn.tail.right.right⟩
  | .unary hu => exact hu.segmented hn

/-- The paths in an operand of a prefix operator. -/
theorem IsUnary.segmented {ts : List Token} {e : Expr} {late : List LateFault}
    (h : IsUnary ts e late) (hn : NamesAreWords ts) : ∀ q ∈ e.paths, q.Segmented := by
  match h with
  | .borrow _ _ hu => exact hu.segmented hn.tail.right
  | .deref _ hu => exact hu.segmented hn.tail
  | .chain hp => exact hp.segmented hn

/-- The paths in calls, method calls and fields: those of the operand, then those of the arguments. The
name of a method or of a field is none. -/
theorem IsPostfix.segmented {bare : Bool} {ts : List Token} {e : Expr} {late : List LateFault}
    (h : IsPostfix bare ts e late) (hn : NamesAreWords ts) : ∀ q ∈ e.paths, q.Segmented := by
  match h with
  | .atom ha => exact ha.segmented hn
  | .call hp _ ha =>
    exact List.forall_mem_append.mpr ⟨hp.segmented hn.left, ha.segmented hn.right.tail⟩
  | .methodCall hp _ _ _ ha =>
    exact List.forall_mem_append.mpr ⟨hp.segmented hn.left, ha.segmented hn.right.tail.tail.tail⟩
  | .field hp _ _ => exact hp.segmented hn.left

/-- The paths in what has no operator around it. -/
theorem IsAtom.segmented {ts : List Token} {e : Expr} {late : List LateFault}
    (h : IsAtom ts e late) (hn : NamesAreWords ts) : ∀ q ∈ e.paths, q.Segmented := by
  match h with
  | .path hp => exact List.forall_mem_singleton.mpr (hp.segmented hn)
  | .selfWord _ =>
    -- `self` is no name, but a path all the same
    exact List.forall_mem_singleton.mpr ⟨nofun, List.forall_mem_singleton.mpr (by decide)⟩
  | .int _ | .string _ => exact List.forall_mem_nil _
  | .macroCall _ _ _ he _ => exact he.segmented hn.tail.tail.tail.left
  | .paren _ he _ => exact he.segmented hn.tail.left

/-- The paths in the arguments of a call. -/
theorem IsArgs.segmented {ts : List Token} {es : List Expr} {late : List LateFault}
    (h : IsArgs ts es late) (hn : NamesAreWords ts) : ∀ q ∈ Expr.pathsAll es, q.Segmented := by
  match h with
  | .nil _ => exact List.forall_mem_nil _
  | .last he _ =>
    exact List.forall_mem_append.mpr ⟨he.segmented hn.left, List.forall_mem_nil _⟩
  | .cons he _ hes =>
    exact List.forall_mem_append.mpr ⟨he.segmented hn.left, hes.segmented hn.right.tail⟩

end

/-! ### Statements and items -/

/-- The paths in a statement. -/
theorem IsStmt.segmented {s : Stmt} (h : IsStmt ts s late) (hn : NamesAreWords ts) :
    ∀ q ∈ s.paths, q.Segmented := by
  cases h with
  | letStmt _ _ _ hd _ hv _ =>
    have hbehind := hn.tail.right.tail
    exact List.forall_mem_append.mpr ⟨hd.segmented hbehind.left, hv.segmented hbehind.right.tail.left⟩
  | exprStmt he _ => exact he.segmented hn.left

/-- The paths in a body. -/
theorem IsStmts.segmented {ss : List Stmt} (h : IsStmts ts ss late) (hn : NamesAreWords ts) :
    ∀ q ∈ ss.flatMap Stmt.paths, q.Segmented := by
  induction h with
  | nil => exact List.forall_mem_nil _
  | cons hs _ ih =>
    rw [List.flatMap_cons]
    exact List.forall_mem_append.mpr ⟨hs.segmented hn.left, ih hn.right⟩

/-- The paths in the body of a function, if there is one. -/
theorem IsTail.segmented {body : Option (List Stmt)} (h : IsTail ts body late)
    (hn : NamesAreWords ts) : ∀ q ∈ (body.getD []).flatMap Stmt.paths, q.Segmented := by
  cases h with
  | none => exact List.forall_mem_nil _
  | body _ hs => exact hs.segmented hn.tail

/-- The paths in the type of a parameter, or in that of a receiver. -/
def WrittenParam.paths : WrittenParam → List Path
  | .named p => p.type.paths
  | .receiver r => optionalPaths r.declared

/-- The paths in a parameter: there are none in a receiver written without its type. -/
theorem IsParam.segmented {p : WrittenParam} (h : IsParam ts p late) (hn : NamesAreWords ts) :
    ∀ q ∈ p.paths, q.Segmented := by
  cases h with
  | value => exact List.forall_mem_nil _
  | @ref _ _ _ isMut =>
    cases isMut with
    | false | true => exact List.forall_mem_nil _
  | typed _ _ ht =>
    rw [WrittenParam.paths, Receiver.declared, optionalPaths_some]
    exact ht.segmented hn.tail.tail
  | named _ _ ht => exact ht.segmented hn.tail.tail

/-- The paths in the parameters of a function. -/
theorem IsParams.segmented {inMethod : Bool} {index : Nat} {ps : List WrittenParam}
    (h : IsParams inMethod index ts ps late) (hn : NamesAreWords ts) :
    ∀ p ∈ ps, ∀ q ∈ p.paths, q.Segmented := by
  induction h with
  | nil => exact List.forall_mem_nil _
  | last hp => exact List.forall_mem_singleton.mpr (hp.segmented hn.left)
  | cons hp _ _ ih => exact List.forall_mem_cons.mpr ⟨hp.segmented hn.left, ih hn.right.tail⟩

/-- The paths in the head of a function stand in its parameters and in its result. -/
theorem mem_head_paths {f : FunctionDef} {ps : List WrittenParam} {q : Path}
    (hreceiver : f.receiver = receiverOf ps) (hparams : f.params = namedOf ps)
    (h : q ∈ f.writtenTypes.flatMap TypeExpr.paths) :
    (∃ p ∈ ps, q ∈ p.paths) ∨ q ∈ optionalPaths f.ret := by
  rw [FunctionDef.writtenTypes, List.flatMap_append, List.flatMap_append, List.mem_append,
    List.mem_append] at h
  -- in the receiver, in a parameter, or in the result
  rcases h with h | h | h
  · rw [hreceiver] at h
    cases hfound : receiverOf ps with
    | none =>
      rw [hfound] at h
      exact absurd h List.not_mem_nil
    | some r =>
      -- the receiver is the first parameter that is one
      obtain ⟨p, hp, hpr⟩ := List.exists_of_findSome?_eq_some hfound
      rw [hfound] at h
      cases p with
      | named => cases hpr
      | receiver r' =>
        obtain rfl := Option.some.inj hpr
        exact .inl ⟨_, hp, h⟩
  · rw [hparams, List.flatMap_map] at h
    obtain ⟨named, hnamed, hq⟩ := List.mem_flatMap.mp h
    obtain ⟨p, hp, hpn⟩ := List.mem_filterMap.mp hnamed
    cases p with
    | receiver => cases hpn
    | named p' =>
      obtain rfl := Option.some.inj hpn
      exact .inl ⟨_, hp, hq⟩
  · exact .inr h

/-- The paths in a function, its own among them. -/
theorem IsFunction.segmented {inMethod : Bool} {f : FunctionDef} (h : IsFunction inMethod ts f late)
    (hn : NamesAreWords ts) : ∀ q ∈ f.path :: f.paths, q.Segmented := by
  obtain ⟨_, _, hp, _, hps, hr, hb⟩ := h
  -- the name stands behind `fn`, and everything else behind the name
  have hbehind := hn.right.tail
  have hlast := hbehind.right.tail
  refine List.forall_mem_cons.mpr ⟨hp.segmented hbehind.left, List.forall_mem_append.mpr ⟨?_, ?_⟩⟩
  · intro q hq
    rcases mem_head_paths rfl rfl hq with ⟨p, hmem, hq⟩ | hq
    · exact hps.segmented hlast.left p hmem q hq
    · exact hr.segmented hlast.right.left q hq
  · exact hb.segmented hlast.right.right

/-- The paths in the methods of a trait or an implementation. -/
theorem IsMethods.segmented {fs : List FunctionDef} (h : IsMethods ts fs late)
    (hn : NamesAreWords ts) : ∀ q ∈ fs.flatMap FunctionDef.paths, q.Segmented := by
  induction h with
  | nil => exact List.forall_mem_nil _
  | cons hf _ ih =>
    rw [List.flatMap_cons]
    -- the path of a method itself is no path of the program
    exact List.forall_mem_append.mpr
      ⟨(List.forall_mem_cons.mp (hf.segmented hn.left)).2, ih hn.right⟩

/-- The paths in an item. -/
def Item.paths : Item → List Path
  | .structDef d => d.paths
  | .traitDef d => d.paths
  | .implDef d => d.paths
  | .function f => f.path :: f.paths

/-- The paths in an item. -/
theorem IsItem.segmented {i : Item} (h : IsItem ts i late) (hn : NamesAreWords ts) :
    ∀ q ∈ i.paths, q.Segmented := by
  cases h with
  | structDef _ hp hr _ =>
    exact List.forall_mem_cons.mpr ⟨hp.segmented hn.tail.left, hr.segmented hn.tail.right.left⟩
  | traitDef _ hp _ hm =>
    exact List.forall_mem_cons.mpr ⟨hp.segmented hn.tail.left, hm.segmented hn.tail.right.tail⟩
  | inherentImpl _ ht _ hm =>
    exact List.forall_mem_append.mpr ⟨ht.segmented hn.tail.left, hm.segmented hn.tail.right.tail⟩
  | traitImpl _ hp _ ht _ hm =>
    have hbehind := hn.tail.right.tail
    -- the implementing type is written behind the trait, but counted before it
    refine List.forall_mem_append.mpr ⟨ht.segmented hbehind.left, List.forall_mem_cons.mpr ?_⟩
    exact ⟨hp.segmented hn.tail.left, hm.segmented hbehind.right.tail⟩
  | function hf => exact hf.segmented hn

/-- The paths in all the items of a program. -/
theorem IsItems.segmented {items : List Item} (h : IsItems ts items late) (hn : NamesAreWords ts) :
    ∀ i ∈ items, ∀ q ∈ i.paths, q.Segmented := by
  induction h with
  | nil => exact List.forall_mem_nil _
  | cons hi _ ih => exact List.forall_mem_cons.mpr ⟨hi.segmented hn.left, ih hn.right⟩

/-- The paths in a program are those in its items. -/
theorem mem_paths_ofItems {source : String} {items : List Item} {q : Path}
    (h : q ∈ (Program.ofItems source items).paths) : ∃ i ∈ items, q ∈ i.paths := by
  rw [Program.paths, List.mem_append, List.mem_append, List.mem_append] at h
  rcases h with h | h | h | h
  -- the four kinds of items are collected in the same way
  all_goals
    obtain ⟨d, hd, hq⟩ := List.mem_flatMap.mp h
    obtain ⟨i, hi, hid⟩ := List.mem_filterMap.mp hd
    split at hid
    · obtain rfl := Option.some.inj hid
      exact ⟨_, hi, hq⟩
    · cases hid

/-- **The paths in a program that is read** have segments, and there is no colon in any of them. -/
theorem parse_segmented {source : String} {p : Program} (h : parse source = .ok p) :
    ∀ q ∈ p.paths, q.Segmented := by
  obtain ⟨hstuck, items, hitems, rfl⟩ := parse_sound h
  obtain ⟨_, hlexes⟩ := lexes_of_lex hstuck
  intro q hq
  obtain ⟨i, hi, hq⟩ := mem_paths_ofItems hq
  exact hitems.segmented hlexes.isName i hi q hq

end ClosureLint.Syntax
