import ClosureLint.Proofs.Grammar.ItemHoles
import ClosureLint.Proofs.Lexing

/-!
# Places do not matter to the grammar

Tokens that differ in their places only form the same constructs, and the trees differ in their
places only.

* `faces_cons_iff`, `faces_append` — tokens with the same kinds and texts, taken apart.
* `IsType.moved`, `IsExpr.moved`, `IsItems.moved` — the construct that such tokens form.
-/

namespace ClosureLint.Syntax

open ClosureLint.Core

variable {ts us : List Token}

/-! ### Tokens with the same kinds and texts -/

/-- Only no tokens have the face of no tokens. -/
theorem faces_nil_iff : faces us = faces [] ↔ us = [] := List.map_eq_nil_iff

/-- Tokens with the face of a list begin with a token of the same kind and text. -/
theorem faces_cons_iff {t : Token} : faces us = faces (t :: ts) ↔
    ∃ u us', us = u :: us' ∧ u.kind = t.kind ∧ u.text = t.text ∧ faces us' = faces ts := by
  constructor
  · intro h
    obtain ⟨u, us', rfl, hface, hrest⟩ := List.map_eq_cons_iff.mp h
    exact ⟨u, us', rfl, congrArg Prod.fst hface, congrArg Prod.snd hface, hrest⟩
  · rintro ⟨u, us', rfl, hk, ht, hrest⟩
    have hface : u.face = t.face := Prod.ext hk ht
    rw [faces, faces, List.map_cons, List.map_cons, hface]
    exact congrArg _ hrest

/-- Tokens with the face of two lists are two lists with these faces. -/
theorem faces_append {as bs : List Token} (h : faces us = faces (as ++ bs)) :
    ∃ as' bs', us = as' ++ bs' ∧ faces as' = faces as ∧ faces bs' = faces bs := by
  rw [faces, faces, List.map_append] at h
  exact List.map_eq_append_iff.mp h

/-- Tokens with the face of one token are one token. -/
theorem faces_singleton {t : Token} (h : faces us = faces [t]) :
    ∃ u, us = [u] ∧ u.kind = t.kind ∧ u.text = t.text := by
  obtain ⟨u, us', rfl, hk, ht, hrest⟩ := faces_cons_iff.mp h
  obtain rfl := faces_nil_iff.mp hrest
  exact ⟨u, rfl, hk, ht⟩

/-! ### Words, paths and literals -/

/-- A word that may be missing is there, or is not, wherever its tokens stand. -/
theorem IsOptional.moved {k : TokenKind} {b : Bool} (h : IsOptional k ts b)
    (hf : faces us = faces ts) : IsOptional k us b := by
  cases h with
  | absent =>
    obtain rfl := faces_nil_iff.mp hf
    exact .absent
  | present hk =>
    obtain ⟨u, rfl, hk', -⟩ := faces_singleton hf
    exact .present (hk'.trans hk)

/-- **A path** stays the same when its tokens move. -/
theorem IsPath.moved {p : Path} (h : IsPath ts p) (hf : faces us = faces ts) : IsPath us p := by
  induction h generalizing us with
  | single hk =>
    obtain ⟨u, rfl, hk', ht⟩ := faces_singleton hf
    exact ht ▸ .single (hk'.trans hk)
  | cons hk hc _ ih =>
    obtain ⟨u, _, rfl, hk', ht, hf⟩ := faces_cons_iff.mp hf
    obtain ⟨colons, us', rfl, hc', -, hf⟩ := faces_cons_iff.mp hf
    exact ht ▸ .cons (hk'.trans hk) (hc'.trans hc) (ih hf)

/-- The value of a number is a matter of its text. -/
theorem intValue_eq {t u : Token} (h : u.text = t.text) : intValue u = intValue t := by
  rw [intValue, intValue, h]

/-- So is its fault. -/
theorem intLate_eq {t u : Token} (h : u.text = t.text) : intLate u = intLate t := by
  rw [intLate, intLate, h]

/-- The value of a string is a matter of its text. -/
theorem stringValue_eq {t u : Token} (h : u.text = t.text) : stringValue u = stringValue t := by
  rw [stringValue, stringValue, h]

/-- So is its fault. -/
theorem stringLate_eq {t u : Token} (h : u.text = t.text) : stringLate u = stringLate t := by
  rw [stringLate, stringLate, h]

/-! ### Types -/

mutual

/-- **A type** stays the same when its tokens move. -/
theorem IsType.moved {ts us : List Token} {t : TypeExpr} {late : List LateFault}
    (h : IsType ts t late) (hl : late = []) (hf : faces us = faces ts) :
    ∃ t', IsType us t' [] ∧ t'.bare = t.bare := by
  match h with
  | @IsType.ref amp ms ts isMut inner _ hk hm ht =>
    obtain ⟨amp', _, rfl, hk', -, hf⟩ := faces_cons_iff.mp hf
    obtain ⟨ms', ts', rfl, hms, hts⟩ := faces_append hf
    obtain ⟨inner', hinner, he⟩ := ht.moved hl hts
    exact ⟨_, .ref (hk'.trans hk) (hm.moved hms) hinner, congrArg (TypeExpr.ref {} isMut) he⟩
  -- the tokens are taken apart as the rule was put together, and the rule is applied to what they are
  | @IsType.array op semicolon n cl ts elem l hk ht hs hn hc =>
    obtain ⟨hl, hint⟩ := List.append_eq_nil_iff.mp hl
    obtain ⟨op', _, rfl, hk', -, hf⟩ := faces_cons_iff.mp hf
    obtain ⟨ts', _, rfl, hts, hf⟩ := faces_append hf
    obtain ⟨semicolon', _, rfl, hs', -, hf⟩ := faces_cons_iff.mp hf
    obtain ⟨n', _, rfl, hn', htext, hf⟩ := faces_cons_iff.mp hf
    obtain ⟨cl', rfl, hc', -⟩ := faces_singleton hf
    obtain ⟨elem', helem, he⟩ := ht.moved hl hts
    have harray := IsType.array (hk'.trans hk) helem (hs'.trans hs) (hn'.trans hn) (hc'.trans hc)
    -- the length of the array and its fault are read from the text of the number
    rw [intLate_eq htext, hint, intValue_eq htext] at harray
    exact ⟨_, harray, congrArg (TypeExpr.array {} · (intValue n)) he⟩
  | @IsType.slice op cl ts elem _ hk ht hc =>
    obtain ⟨op', _, rfl, hk', -, hf⟩ := faces_cons_iff.mp hf
    obtain ⟨ts', _, rfl, hts, hf⟩ := faces_append hf
    obtain ⟨cl', rfl, hc', -⟩ := faces_singleton hf
    obtain ⟨elem', helem, he⟩ := ht.moved hl hts
    exact ⟨_, .slice (hk'.trans hk) helem (hc'.trans hc), congrArg (TypeExpr.slice {}) he⟩
  | @IsType.unit op cl hk hc =>
    obtain ⟨op', _, rfl, hk', -, hf⟩ := faces_cons_iff.mp hf
    obtain ⟨cl', rfl, hc', -⟩ := faces_singleton hf
    exact ⟨_, .unit (hk'.trans hk) (hc'.trans hc), rfl⟩
  | @IsType.tuple op comma ts vs first others _ _ hk ht hc hts =>
    obtain ⟨hl, hl'⟩ := List.append_eq_nil_iff.mp hl
    obtain ⟨op', _, rfl, hk', -, hf⟩ := faces_cons_iff.mp hf
    obtain ⟨ts', _, rfl, hts', hf⟩ := faces_append hf
    obtain ⟨comma', vs', rfl, hc', -, hvs⟩ := faces_cons_iff.mp hf
    obtain ⟨first', hfirst, he⟩ := ht.moved hl hts'
    obtain ⟨others', hothers, hes⟩ := hts.moved hl' hvs
    refine ⟨_, .tuple (hk'.trans hk) hfirst (hc'.trans hc) hothers, ?_⟩
    exact congrArg (TypeExpr.tuple {}) (List.cons_eq_cons.mpr ⟨he, hes⟩)
  | @IsType.paren op cl ts t _ hk ht hc =>
    obtain ⟨op', _, rfl, hk', -, hf⟩ := faces_cons_iff.mp hf
    obtain ⟨ts', _, rfl, hts, hf⟩ := faces_append hf
    obtain ⟨cl', rfl, hc', -⟩ := faces_singleton hf
    obtain ⟨t', ht', he⟩ := ht.moved hl hts
    exact ⟨t', .paren (hk'.trans hk) ht' (hc'.trans hc), he⟩
  | @IsType.unsafeFnPtr word fn ts params ret _ hw hfn hs =>
    obtain ⟨word', _, rfl, hw', -, hf⟩ := faces_cons_iff.mp hf
    obtain ⟨fn', ts', rfl, hfn', -, hts⟩ := faces_cons_iff.mp hf
    obtain ⟨params', ret', hs', hps, hr⟩ := hs.moved hl hts
    exact ⟨_, .unsafeFnPtr (hw'.trans hw) (hfn'.trans hfn) hs', TypeExpr.bare_fnPtr hps hr⟩
  | @IsType.fnPtr fn ts params ret _ hfn hs =>
    obtain ⟨fn', ts', rfl, hfn', -, hts⟩ := faces_cons_iff.mp hf
    obtain ⟨params', ret', hs', hps, hr⟩ := hs.moved hl hts
    exact ⟨_, .fnPtr (hfn'.trans hfn) hs', TypeExpr.bare_fnPtr hps hr⟩
  | @IsType.named _ p hp => exact ⟨_, .named (hp.moved hf), rfl⟩
  | @IsType.generic less ts vs p args _ hp hk ha =>
    obtain ⟨ts', _, rfl, hts, hf⟩ := faces_append hf
    obtain ⟨less', vs', rfl, hk', -, hvs⟩ := faces_cons_iff.mp hf
    obtain ⟨args', ha', he⟩ := ha.moved hl hvs
    exact ⟨_, .generic (hp.moved hts) (hk'.trans hk) ha', congrArg (TypeExpr.named {} p) he⟩

/-- So do the parameters and the result of a function type. -/
theorem IsSignature.moved {ts us : List Token} {params : List TypeExpr} {ret : Option TypeExpr}
    {late : List LateFault} (h : IsSignature ts params ret late) (hl : late = [])
    (hf : faces us = faces ts) :
    ∃ params' ret', IsSignature us params' ret' [] ∧
      TypeExpr.bareAll params' = TypeExpr.bareAll params ∧
      ret'.map TypeExpr.bare = ret.map TypeExpr.bare := by
  match h with
  -- without a result nothing is behind the parameters, and with one an arrow is
  | @IsSignature.unit op ts params _ hk hts =>
    obtain ⟨op', ts', rfl, hk', -, hts'⟩ := faces_cons_iff.mp hf
    obtain ⟨params', hps, he⟩ := hts.moved hl hts'
    exact ⟨params', none, .unit (hk'.trans hk) hps, he, rfl⟩
  | @IsSignature.ret op arrow ts vs params ret _ _ hk hts ha ht =>
    obtain ⟨hl, hl'⟩ := List.append_eq_nil_iff.mp hl
    obtain ⟨op', _, rfl, hk', -, hf⟩ := faces_cons_iff.mp hf
    obtain ⟨ts', _, rfl, hts', hf⟩ := faces_append hf
    obtain ⟨arrow', vs', rfl, ha', -, hvs⟩ := faces_cons_iff.mp hf
    obtain ⟨params', hps, he⟩ := hts.moved hl hts'
    obtain ⟨ret', hr, he'⟩ := ht.moved hl' hvs
    exact ⟨params', some ret', .ret (hk'.trans hk) hps (ha'.trans ha) hr, he, congrArg some he'⟩

/-- So do the types up to a parenthesis. -/
theorem IsTypesClosing.moved {ts us : List Token} {types : List TypeExpr} {late : List LateFault}
    (h : IsTypesClosing ts types late) (hl : late = []) (hf : faces us = faces ts) :
    ∃ types', IsTypesClosing us types' [] ∧ TypeExpr.bareAll types' = TypeExpr.bareAll types := by
  match h with
  | @IsTypesClosing.nil cl hc =>
    obtain ⟨cl', rfl, hc', -⟩ := faces_singleton hf
    exact ⟨[], .nil (hc'.trans hc), rfl⟩
  -- a type and the mark behind it: the mark tells whether there are others
  | @IsTypesClosing.last cl ts t _ ht hc =>
    obtain ⟨ts', _, rfl, hts, hf⟩ := faces_append hf
    obtain ⟨cl', rfl, hc', -⟩ := faces_singleton hf
    obtain ⟨t', ht', he⟩ := ht.moved hl hts
    exact ⟨[t'], .last ht' (hc'.trans hc), congrArg ([·]) he⟩
  | @IsTypesClosing.cons comma ts vs t others _ _ ht hc hts =>
    obtain ⟨hl, hl'⟩ := List.append_eq_nil_iff.mp hl
    obtain ⟨ts', _, rfl, hts', hf⟩ := faces_append hf
    obtain ⟨comma', vs', rfl, hc', -, hvs⟩ := faces_cons_iff.mp hf
    obtain ⟨t', ht', he⟩ := ht.moved hl hts'
    obtain ⟨others', hothers, hes⟩ := hts.moved hl' hvs
    exact ⟨t' :: others', .cons ht' (hc'.trans hc) hothers, List.cons_eq_cons.mpr ⟨he, hes⟩⟩

/-- So do type arguments. -/
theorem IsTypeArgs.moved {ts us : List Token} {types : List TypeExpr} {late : List LateFault}
    (h : IsTypeArgs ts types late) (hl : late = []) (hf : faces us = faces ts) :
    ∃ types', IsTypeArgs us types' [] ∧ TypeExpr.bareAll types' = TypeExpr.bareAll types := by
  match h with
  | @IsTypeArgs.last cl ts t _ ht hc =>
    obtain ⟨ts', _, rfl, hts, hf⟩ := faces_append hf
    obtain ⟨cl', rfl, hc', -⟩ := faces_singleton hf
    obtain ⟨t', ht', he⟩ := ht.moved hl hts
    exact ⟨[t'], .last ht' (hc'.trans hc), congrArg ([·]) he⟩
  | @IsTypeArgs.cons comma ts vs t others _ _ ht hc hts =>
    obtain ⟨hl, hl'⟩ := List.append_eq_nil_iff.mp hl
    obtain ⟨ts', _, rfl, hts', hf⟩ := faces_append hf
    obtain ⟨comma', vs', rfl, hc', -, hvs⟩ := faces_cons_iff.mp hf
    obtain ⟨t', ht', he⟩ := ht.moved hl hts'
    obtain ⟨others', hothers, hes⟩ := hts.moved hl' hvs
    exact ⟨t' :: others', .cons ht' (hc'.trans hc) hothers, List.cons_eq_cons.mpr ⟨he, hes⟩⟩

end

/-- So does a type behind a mark, if there is one. -/
theorem IsOptionalType.moved {k : TokenKind} {t : Option TypeExpr} {late : List LateFault}
    (h : IsOptionalType k ts t late) (hl : late = []) (hf : faces us = faces ts) :
    ∃ t', IsOptionalType k us t' [] ∧ t'.map TypeExpr.bare = t.map TypeExpr.bare := by
  cases h with
  | absent =>
    obtain rfl := faces_nil_iff.mp hf
    exact ⟨none, .absent, rfl⟩
  | present hk ht =>
    obtain ⟨mark', ts', rfl, hk', -, hts⟩ := faces_cons_iff.mp hf
    obtain ⟨t', ht', he⟩ := ht.moved hl hts
    exact ⟨some t', .present (hk'.trans hk) ht', congrArg some he⟩

/-! ### Patterns and closure parameters -/

mutual

/-- **A pattern** stays the same when its tokens move. -/
theorem IsPattern.moved {ts us : List Token} {p : Syntax.Pattern} (h : IsPattern ts p)
    (hf : faces us = faces ts) :
    ∃ p', IsPattern us p' ∧ (lowerPattern {} p').bare = (lowerPattern {} p).bare := by
  match h with
  -- a name that is bound is the text of its token
  | @IsPattern.mutBinding word name hw hn =>
    obtain ⟨word', _, rfl, hw', -, hf⟩ := faces_cons_iff.mp hf
    obtain ⟨name', rfl, hn', ht⟩ := faces_singleton hf
    exact ⟨_, .mutBinding (hw'.trans hw) (hn'.trans hn), congrArg (Core.Pattern.binding {} true) ht⟩
  | @IsPattern.binding name hn =>
    obtain ⟨name', rfl, hn', ht⟩ := faces_singleton hf
    exact ⟨_, .binding (hn'.trans hn), congrArg (Core.Pattern.binding {} false) ht⟩
  | @IsPattern.wildcard t hk =>
    obtain ⟨t', rfl, hk', -⟩ := faces_singleton hf
    exact ⟨_, .wildcard (hk'.trans hk), rfl⟩
  | @IsPattern.ref amp ts inner hk hp =>
    obtain ⟨amp', ts', rfl, hk', -, hts⟩ := faces_cons_iff.mp hf
    obtain ⟨inner', hinner, he⟩ := hp.moved hts
    exact ⟨_, .ref (hk'.trans hk) hinner, congrArg (Core.Pattern.ref {}) he⟩
  | @IsPattern.tuple op comma ts vs first others hk hp hc hps =>
    obtain ⟨op', _, rfl, hk', -, hf⟩ := faces_cons_iff.mp hf
    obtain ⟨ts', _, rfl, hts, hf⟩ := faces_append hf
    obtain ⟨comma', vs', rfl, hc', -, hvs⟩ := faces_cons_iff.mp hf
    obtain ⟨first', hfirst, he⟩ := hp.moved hts
    obtain ⟨others', hothers, hes⟩ := hps.moved hvs
    refine ⟨_, .tuple (hk'.trans hk) hfirst (hc'.trans hc) hothers, ?_⟩
    exact congrArg (Core.Pattern.tuple {}) (List.cons_eq_cons.mpr ⟨he, hes⟩)
  | @IsPattern.paren op cl ts p hk hp hc =>
    obtain ⟨op', _, rfl, hk', -, hf⟩ := faces_cons_iff.mp hf
    obtain ⟨ts', _, rfl, hts, hf⟩ := faces_append hf
    obtain ⟨cl', rfl, hc', -⟩ := faces_singleton hf
    obtain ⟨p', hp', he⟩ := hp.moved hts
    exact ⟨p', .paren (hk'.trans hk) hp' (hc'.trans hc), he⟩

/-- So do the patterns up to a parenthesis. -/
theorem IsPatternsClosing.moved {ts us : List Token} {ps : List Syntax.Pattern}
    (h : IsPatternsClosing ts ps) (hf : faces us = faces ts) :
    ∃ ps', IsPatternsClosing us ps' ∧
      Core.Pattern.bareAll (lowerPatterns {} ps') = Core.Pattern.bareAll (lowerPatterns {} ps) := by
  match h with
  | @IsPatternsClosing.nil cl hc =>
    obtain ⟨cl', rfl, hc', -⟩ := faces_singleton hf
    exact ⟨[], .nil (hc'.trans hc), rfl⟩
  | @IsPatternsClosing.last cl ts p hp hc =>
    obtain ⟨ts', _, rfl, hts, hf⟩ := faces_append hf
    obtain ⟨cl', rfl, hc', -⟩ := faces_singleton hf
    obtain ⟨p', hp', he⟩ := hp.moved hts
    exact ⟨[p'], .last hp' (hc'.trans hc), congrArg ([·]) he⟩
  | @IsPatternsClosing.cons comma ts vs p others hp hc hps =>
    obtain ⟨ts', _, rfl, hts, hf⟩ := faces_append hf
    obtain ⟨comma', vs', rfl, hc', -, hvs⟩ := faces_cons_iff.mp hf
    obtain ⟨p', hp', he⟩ := hp.moved hts
    obtain ⟨others', hothers, hes⟩ := hps.moved hvs
    exact ⟨p' :: others', .cons hp' (hc'.trans hc) hothers, List.cons_eq_cons.mpr ⟨he, hes⟩⟩

end

/-- What closure parameters of the source say. -/
def plainParams (ps : List ClosureParam) : List Core.Param :=
  (ps.map (lowerClosureParam {})).map Core.Param.bare

/-- So does a parameter of a closure. -/
theorem IsClosureParam.moved {p : ClosureParam} {late : List LateFault}
    (h : IsClosureParam ts p late) (hl : late = []) (hf : faces us = faces ts) :
    ∃ p', IsClosureParam us p' [] ∧
      (lowerClosureParam {} p').bare = (lowerClosureParam {} p).bare := by
  obtain ⟨hp, hd⟩ := h
  obtain ⟨ts', us', rfl, hts, hus⟩ := faces_append hf
  obtain ⟨p', hp', he⟩ := hp.moved hts
  obtain ⟨declared', hd', he'⟩ := hd.moved hl hus
  refine ⟨_, .mk hp' hd', ?_⟩
  show Core.Param.mk {} (lowerPattern {} p').bare (declared'.map TypeExpr.bare) = _
  rw [he, he']
  rfl

/-- So do the parameters of a closure. -/
theorem IsClosureParams.moved {ps : List ClosureParam} {late : List LateFault}
    (h : IsClosureParams ts ps late) (hl : late = []) (hf : faces us = faces ts) :
    ∃ ps', IsClosureParams us ps' [] ∧ plainParams ps' = plainParams ps := by
  induction h generalizing us with
  | nil hc =>
    obtain ⟨cl', rfl, hc', -⟩ := faces_singleton hf
    exact ⟨[], .nil (hc'.trans hc), rfl⟩
  | last hp hc =>
    obtain ⟨ts', _, rfl, hts, hf⟩ := faces_append hf
    obtain ⟨cl', rfl, hc', -⟩ := faces_singleton hf
    obtain ⟨p', hp', he⟩ := hp.moved hl hts
    exact ⟨[p'], .last hp' (hc'.trans hc), congrArg ([·]) he⟩
  | cons hp hc _ ih =>
    obtain ⟨hl, hl'⟩ := List.append_eq_nil_iff.mp hl
    obtain ⟨ts', _, rfl, hts, hf⟩ := faces_append hf
    obtain ⟨comma', vs', rfl, hc', -, hvs⟩ := faces_cons_iff.mp hf
    obtain ⟨p', hp', he⟩ := hp.moved hl hts
    obtain ⟨others', hothers, hes⟩ := ih hl' hvs
    exact ⟨p' :: others', .cons hp' (hc'.trans hc) hothers, List.cons_eq_cons.mpr ⟨he, hes⟩⟩

/-! ### Expressions -/

mutual

/-- **An expression** stays the same when its tokens move. -/
theorem IsExpr.moved {ts us : List Token} {e : Syntax.Expr} {late : List LateFault}
    (h : IsExpr ts e late) (hl : late = []) (hf : faces us = faces ts) :
    ∃ e', IsExpr us e' [] ∧ plainExpr e' = plainExpr e := by
  match h with
  | @IsExpr.closure bar ps rs bs params ret body _ _ _ hk hp hr hb =>
    simp only [List.append_eq_nil_iff] at hl
    -- without a fault in the whole there is none in a part
    obtain ⟨hl, hl', hl''⟩ := hl
    obtain ⟨bar', _, rfl, hk', -, hf⟩ := faces_cons_iff.mp hf
    obtain ⟨ps', _, rfl, hps, hf⟩ := faces_append hf
    obtain ⟨rs', bs', rfl, hrs, hbs⟩ := faces_append hf
    obtain ⟨params', hp', hparams⟩ := hp.moved hl hps
    obtain ⟨ret', hr', hret⟩ := hr.moved hl' hrs
    obtain ⟨body', hb', hbody⟩ := hb.moved hl'' hbs
    refine ⟨_, .closure (hk'.trans hk) hp' hr' hb', ?_⟩
    show Core.Expr.closure {} (plainParams params') (ret'.map TypeExpr.bare) (plainExpr body') = _
    rw [hparams, hret, hbody]
    rfl
  | @IsExpr.unary _ _ _ hu =>
    obtain ⟨e', he', hplain⟩ := hu.moved hl hf
    exact ⟨e', .unary he', hplain⟩

/-- So does an expression below prefix operators. -/
theorem IsUnary.moved {ts us : List Token} {e : Syntax.Expr} {late : List LateFault}
    (h : IsUnary ts e late) (hl : late = []) (hf : faces us = faces ts) :
    ∃ e', IsUnary us e' [] ∧ plainExpr e' = plainExpr e := by
  match h with
  | @IsUnary.borrow amp ms ts isMut e _ hk hm hu =>
    obtain ⟨amp', _, rfl, hk', -, hf⟩ := faces_cons_iff.mp hf
    obtain ⟨ms', ts', rfl, hms, hts⟩ := faces_append hf
    obtain ⟨e', he', hplain⟩ := hu.moved hl hts
    exact ⟨_, .borrow (hk'.trans hk) (hm.moved hms) he', congrArg (Core.Expr.borrow {} isMut) hplain⟩
  | @IsUnary.deref star ts e _ hk hu =>
    obtain ⟨star', ts', rfl, hk', -, hts⟩ := faces_cons_iff.mp hf
    obtain ⟨e', he', hplain⟩ := hu.moved hl hts
    exact ⟨_, .deref (hk'.trans hk) he', congrArg (Core.Expr.deref {}) hplain⟩
  | @IsUnary.chain bare _ _ _ hp =>
    obtain ⟨e', he', hplain⟩ := hp.moved hl hf
    exact ⟨e', .chain he', hplain⟩

/-- So does a chain. -/
theorem IsPostfix.moved {bare : Bool} {ts us : List Token} {e : Syntax.Expr}
    {late : List LateFault} (h : IsPostfix bare ts e late) (hl : late = [])
    (hf : faces us = faces ts) :
    ∃ e', IsPostfix bare us e' [] ∧ plainExpr e' = plainExpr e := by
  match h with
  | @IsPostfix.atom _ _ _ ha =>
    obtain ⟨e', he', hplain⟩ := ha.moved hl hf
    exact ⟨e', .atom he', hplain⟩
  | @IsPostfix.call op ts vs callee args _ _ hp hk ha =>
    obtain ⟨hl, hl'⟩ := List.append_eq_nil_iff.mp hl
    obtain ⟨ts', _, rfl, hts, hf⟩ := faces_append hf
    obtain ⟨op', vs', rfl, hk', -, hvs⟩ := faces_cons_iff.mp hf
    obtain ⟨callee', hcallee, he⟩ := hp.moved hl hts
    obtain ⟨args', hargs, hes⟩ := ha.moved hl' hvs
    refine ⟨_, .call hcallee (hk'.trans hk) hargs, ?_⟩
    show Core.Expr.call {} (plainExpr callee') (plainExprs args') = _
    rw [he, hes]
    rfl
  -- the method is named by the text of a token, which stays
  | @IsPostfix.methodCall bare dot name op ts vs receiver args _ _ hp hd hn hk ha =>
    obtain ⟨hl, hl'⟩ := List.append_eq_nil_iff.mp hl
    obtain ⟨ts', _, rfl, hts, hf⟩ := faces_append hf
    obtain ⟨dot', _, rfl, hd', -, hf⟩ := faces_cons_iff.mp hf
    obtain ⟨name', _, rfl, hn', ht, hf⟩ := faces_cons_iff.mp hf
    obtain ⟨op', vs', rfl, hk', -, hvs⟩ := faces_cons_iff.mp hf
    obtain ⟨receiver', hreceiver, he⟩ := hp.moved hl hts
    obtain ⟨args', hargs, hes⟩ := ha.moved hl' hvs
    refine ⟨_, .methodCall hreceiver (hd'.trans hd) (hn'.trans hn) (hk'.trans hk) hargs, ?_⟩
    show Core.Expr.methodCall {} (plainExpr receiver') name'.text (plainExprs args') = _
    rw [he, ht, hes]
    rfl
  | @IsPostfix.field bare dot name ts subject _ hp hd hn =>
    obtain ⟨ts', _, rfl, hts, hf⟩ := faces_append hf
    obtain ⟨dot', _, rfl, hd', -, hf⟩ := faces_cons_iff.mp hf
    obtain ⟨name', rfl, hn', ht⟩ := faces_singleton hf
    obtain ⟨subject', hsubject, he⟩ := hp.moved hl hts
    refine ⟨_, .field hsubject (hd'.trans hd) (hn'.trans hn), ?_⟩
    show Core.Expr.field {} (plainExpr subject') name'.text = _
    rw [he, ht]
    rfl

/-- So does an atom. -/
theorem IsAtom.moved {ts us : List Token} {e : Syntax.Expr} {late : List LateFault}
    (h : IsAtom ts e late) (hl : late = []) (hf : faces us = faces ts) :
    ∃ e', IsAtom us e' [] ∧ plainExpr e' = plainExpr e := by
  match h with
  | @IsAtom.path _ p hp => exact ⟨_, .path (hp.moved hf), rfl⟩
  | @IsAtom.selfWord t hk =>
    obtain ⟨t', rfl, hk', -⟩ := faces_singleton hf
    exact ⟨_, .selfWord (hk'.trans hk), rfl⟩
  | @IsAtom.int t hk =>
    obtain ⟨t', rfl, hk', ht⟩ := faces_singleton hf
    -- a number or a string may have no value, and then it has none elsewhere either
    have hint := IsAtom.int (hk'.trans hk)
    rw [intLate_eq ht, hl, intValue_eq ht] at hint
    exact ⟨_, hint, rfl⟩
  | @IsAtom.string t hk =>
    obtain ⟨t', rfl, hk', ht⟩ := faces_singleton hf
    have hstring := IsAtom.string (hk'.trans hk)
    rw [stringLate_eq ht, hl, stringValue_eq ht] at hstring
    exact ⟨_, hstring, rfl⟩
  | @IsAtom.macroCall name bang op cl ts e _ hn hb ho he hc =>
    obtain ⟨name', _, rfl, hn', -, hf⟩ := faces_cons_iff.mp hf
    obtain ⟨bang', _, rfl, hb', -, hf⟩ := faces_cons_iff.mp hf
    obtain ⟨op', _, rfl, ho', -, hf⟩ := faces_cons_iff.mp hf
    obtain ⟨ts', _, rfl, hts, hf⟩ := faces_append hf
    obtain ⟨cl', rfl, hc', -⟩ := faces_singleton hf
    obtain ⟨e', he', hplain⟩ := he.moved hl hts
    refine ⟨_, .macroCall (hn'.trans hn) (hb'.trans hb) (ho'.trans ho) he' (hc'.trans hc), ?_⟩
    rw [plainExpr_macroCall, plainExpr_macroCall, hplain]
  | @IsAtom.paren op cl ts e _ ho he hc =>
    obtain ⟨op', _, rfl, ho', -, hf⟩ := faces_cons_iff.mp hf
    obtain ⟨ts', _, rfl, hts, hf⟩ := faces_append hf
    obtain ⟨cl', rfl, hc', -⟩ := faces_singleton hf
    obtain ⟨e', he', hplain⟩ := he.moved hl hts
    exact ⟨e', .paren (ho'.trans ho) he' (hc'.trans hc), hplain⟩

/-- So do arguments. -/
theorem IsArgs.moved {ts us : List Token} {es : List Syntax.Expr} {late : List LateFault}
    (h : IsArgs ts es late) (hl : late = []) (hf : faces us = faces ts) :
    ∃ es', IsArgs us es' [] ∧ plainExprs es' = plainExprs es := by
  match h with
  | @IsArgs.nil cl hc =>
    obtain ⟨cl', rfl, hc', -⟩ := faces_singleton hf
    exact ⟨[], .nil (hc'.trans hc), rfl⟩
  | @IsArgs.last cl ts e _ he hc =>
    obtain ⟨ts', _, rfl, hts, hf⟩ := faces_append hf
    obtain ⟨cl', rfl, hc', -⟩ := faces_singleton hf
    obtain ⟨e', he', hplain⟩ := he.moved hl hts
    exact ⟨[e'], .last he' (hc'.trans hc), congrArg ([·]) hplain⟩
  | @IsArgs.cons comma ts vs e others _ _ he hc hes =>
    obtain ⟨hl, hl'⟩ := List.append_eq_nil_iff.mp hl
    obtain ⟨ts', _, rfl, hts, hf⟩ := faces_append hf
    obtain ⟨comma', vs', rfl, hc', -, hvs⟩ := faces_cons_iff.mp hf
    obtain ⟨e', he', hplain⟩ := he.moved hl hts
    obtain ⟨others', hothers, hplains⟩ := hes.moved hl' hvs
    exact ⟨e' :: others', .cons he' (hc'.trans hc) hothers,
      List.cons_eq_cons.mpr ⟨hplain, hplains⟩⟩

end

/-! ### Statements -/

/-- **A statement** stays the same when its tokens move. -/
theorem IsStmt.moved {s : Syntax.Stmt} {late : List LateFault} (h : IsStmt ts s late)
    (hl : late = []) (hf : faces us = faces ts) :
    ∃ s', IsStmt us s' [] ∧ plainStmt s' = plainStmt s := by
  cases h with
  | @letStmt word name equal semicolon ms ds vs isMut declared value _ _ hw hm hn hd he hv hs =>
    obtain ⟨hl, hl'⟩ := List.append_eq_nil_iff.mp hl
    -- first the tokens are taken apart, from left to right, and then the parts are moved
    obtain ⟨word', _, rfl, hw', -, hf⟩ := faces_cons_iff.mp hf
    obtain ⟨ms', _, rfl, hms, hf⟩ := faces_append hf
    obtain ⟨name', _, rfl, hn', ht, hf⟩ := faces_cons_iff.mp hf
    obtain ⟨ds', _, rfl, hds, hf⟩ := faces_append hf
    obtain ⟨equal', _, rfl, he', -, hf⟩ := faces_cons_iff.mp hf
    obtain ⟨vs', _, rfl, hvs, hf⟩ := faces_append hf
    obtain ⟨semicolon', rfl, hs', -⟩ := faces_singleton hf
    obtain ⟨declared', hdeclared, hde⟩ := hd.moved hl hds
    obtain ⟨value', hvalue, hplain⟩ := hv.moved hl' hvs
    refine ⟨_, .letStmt (hw'.trans hw) (hm.moved hms) (hn'.trans hn) hdeclared (he'.trans he)
      hvalue (hs'.trans hs), ?_⟩
    show Core.Stmt.letStmt {} (.binding {} isMut name'.text) (declared'.map TypeExpr.bare)
      (plainExpr value') = _
    rw [ht, hde, hplain]
    rfl
  | @exprStmt semicolon ts e _ he hs =>
    obtain ⟨ts', _, rfl, hts, hf⟩ := faces_append hf
    obtain ⟨semicolon', rfl, hs', -⟩ := faces_singleton hf
    obtain ⟨e', he', hplain⟩ := he.moved hl hts
    exact ⟨_, .exprStmt he' (hs'.trans hs), congrArg (Core.Stmt.exprStmt {}) hplain⟩

/-- So do statements. -/
theorem IsStmts.moved {ss : List Syntax.Stmt} {late : List LateFault} (h : IsStmts ts ss late)
    (hl : late = []) (hf : faces us = faces ts) :
    ∃ ss', IsStmts us ss' [] ∧ ss'.map plainStmt = ss.map plainStmt := by
  induction h generalizing us with
  | nil hc =>
    obtain ⟨cl', rfl, hc', -⟩ := faces_singleton hf
    exact ⟨[], .nil (hc'.trans hc), rfl⟩
  | cons hs _ ih =>
    obtain ⟨hl, hl'⟩ := List.append_eq_nil_iff.mp hl
    obtain ⟨ts', vs', rfl, hts, hvs⟩ := faces_append hf
    obtain ⟨s', hs', he⟩ := hs.moved hl hts
    obtain ⟨others', hothers, hes⟩ := ih hl' hvs
    exact ⟨s' :: others', .cons hs' hothers, List.cons_eq_cons.mpr ⟨he, hes⟩⟩

/-! ### Functions -/

/-- What a parameter of the source says: a name and a type, or that it is the receiver. -/
def plainParam : WrittenParam → Option (String × TypeExpr)
  | .receiver _ => none
  | .named p => some (p.name, p.type.bare)

/-- Parameters that agree up to their places may stand in the same ones. -/
theorem paramLate_eq_nil {inMethod : Bool} {index : Nat} {p p' : WrittenParam}
    (h : plainParam p' = plainParam p) (hl : paramLate inMethod index p = []) :
    paramLate inMethod index p' = [] := by
  cases p with
  | named p =>
    cases p' with
    | named p' => rfl
    | receiver r' => nomatch h
  | receiver r =>
    cases p' with
    | named p' => rfl
    | receiver r' =>
      -- where the receiver stands in its text does not decide whether it may stand there
      have hfault : (receiverFault? inMethod index r.loc).toList = [] := hl
      show (receiverFault? inMethod index r'.loc).toList = []
      unfold receiverFault? at hfault ⊢
      by_cases hm : (!inMethod) = true
      · rw [if_pos hm] at hfault
        nomatch hfault
      · rw [if_neg hm] at hfault ⊢
        by_cases hi : index ≠ 0
        · rw [if_pos hi] at hfault
          nomatch hfault
        · rw [if_neg hi]
          rfl

/-- **A parameter** stays the same when its tokens move. -/
theorem IsParam.moved {p : WrittenParam} {late : List LateFault} (h : IsParam ts p late)
    (hl : late = []) (hf : faces us = faces ts) :
    ∃ p', IsParam us p' [] ∧ plainParam p' = plainParam p := by
  cases h with
  | value hm hw =>
    obtain ⟨ms', _, rfl, hms, hf⟩ := faces_append hf
    obtain ⟨word', rfl, hw', -⟩ := faces_singleton hf
    exact ⟨_, .value (hm.moved hms) (hw'.trans hw), rfl⟩
  | ref hk hm hw =>
    obtain ⟨amp', _, rfl, hk', -, hf⟩ := faces_cons_iff.mp hf
    obtain ⟨ms', _, rfl, hms, hf⟩ := faces_append hf
    obtain ⟨word', rfl, hw', -⟩ := faces_singleton hf
    exact ⟨_, .ref (hk'.trans hk) (hm.moved hms) (hw'.trans hw), rfl⟩
  | typed hw hc ht =>
    obtain ⟨word', _, rfl, hw', -, hf⟩ := faces_cons_iff.mp hf
    obtain ⟨colon', ts', rfl, hc', -, hts⟩ := faces_cons_iff.mp hf
    obtain ⟨t', ht', -⟩ := ht.moved hl hts
    exact ⟨_, .typed (hw'.trans hw) (hc'.trans hc) ht', rfl⟩
  | named hn hc ht =>
    obtain ⟨name', _, rfl, hn', htext, hf⟩ := faces_cons_iff.mp hf
    obtain ⟨colon', ts', rfl, hc', -, hts⟩ := faces_cons_iff.mp hf
    obtain ⟨t', ht', he⟩ := ht.moved hl hts
    exact ⟨_, .named (hn'.trans hn) (hc'.trans hc) ht', congrArg some (Prod.ext htext he)⟩

/-- So do the parameters of a function. -/
theorem IsParams.moved {inMethod : Bool} {index : Nat} {ps : List WrittenParam}
    {late : List LateFault} (h : IsParams inMethod index ts ps late) (hl : late = [])
    (hf : faces us = faces ts) :
    ∃ ps', IsParams inMethod index us ps' [] ∧ ps'.map plainParam = ps.map plainParam := by
  induction h generalizing us with
  | nil hc =>
    obtain ⟨cl', rfl, hc', -⟩ := faces_singleton hf
    exact ⟨[], .nil (hc'.trans hc), rfl⟩
  | @last index _ _ _ _ hp hc =>
    obtain ⟨hl, hl'⟩ := List.append_eq_nil_iff.mp hl
    obtain ⟨ts', _, rfl, hts, hf⟩ := faces_append hf
    obtain ⟨cl', rfl, hc', -⟩ := faces_singleton hf
    obtain ⟨p', hp', he⟩ := hp.moved hl' hts
    have hps : IsParams inMethod index _ _ _ := .last hp' (hc'.trans hc)
    -- a receiver in a wrong place would have been a fault before
    rw [paramLate_eq_nil he hl] at hps
    exact ⟨[p'], hps, congrArg ([·]) he⟩
  | cons hp hc _ ih =>
    simp only [List.append_eq_nil_iff] at hl
    obtain ⟨⟨hl, hl'⟩, hl''⟩ := hl
    obtain ⟨ts', _, rfl, hts, hf⟩ := faces_append hf
    obtain ⟨comma', vs', rfl, hc', -, hvs⟩ := faces_cons_iff.mp hf
    obtain ⟨p', hp', he⟩ := hp.moved hl' hts
    obtain ⟨others', hothers, hes⟩ := ih hl'' hvs
    have hps := IsParams.cons hp' (hc'.trans hc) hothers
    rw [paramLate_eq_nil he hl] at hps
    exact ⟨p' :: others', hps, List.cons_eq_cons.mpr ⟨he, hes⟩⟩

/-- So does what stands behind the head of a function. -/
theorem IsTail.moved {body : Option (List Syntax.Stmt)} {late : List LateFault}
    (h : IsTail ts body late) (hl : late = []) (hf : faces us = faces ts) :
    ∃ body', IsTail us body' [] ∧ body'.map (List.map plainStmt) = body.map (List.map plainStmt) := by
  cases h with
  | none hs =>
    obtain ⟨semicolon', rfl, hs', -⟩ := faces_singleton hf
    exact ⟨_, .none (hs'.trans hs), rfl⟩
  | body hk hs =>
    obtain ⟨op', ts', rfl, hk', -, hts⟩ := faces_cons_iff.mp hf
    obtain ⟨ss', hs', he⟩ := hs.moved hl hts
    exact ⟨_, .body (hk'.trans hk) hs', congrArg some he⟩

/-- Whether there is a receiver is told from the parameters without their places. -/
theorem isSome_receiverOf (ps : List WrittenParam) :
    (receiverOf ps).isSome = (ps.map plainParam).any Option.isNone := by
  induction ps with
  | nil => rfl
  | cons p ps ih =>
    cases p with
    | named p => exact ih
    | receiver r => rfl

/-- So are the names and types of the others. -/
theorem map_namedOf (ps : List WrittenParam) :
    (namedOf ps).map (fun p => (p.name, p.type.bare)) = (ps.map plainParam).filterMap id := by
  induction ps with
  | nil => rfl
  | cons p ps ih =>
    cases p with
    | named p => exact congrArg (_ :: ·) ih
    | receiver r => exact ih

/-- A bare parameter that binds a name. -/
def bareParam (p : String × TypeExpr) : Core.Param := ⟨{}, .binding {} false p.1, some p.2⟩

/-- Lowered parameters say what the written ones say. -/
theorem lowerParams_bare {f : FunctionDef} {ps : List WrittenParam}
    (hr : f.receiver = receiverOf ps) (hp : f.params = namedOf ps) :
    (lowerParams {} f).map Core.Param.bare
      = (if (ps.map plainParam).any Option.isNone then [⟨{}, .binding {} false "self", none⟩] else [])
        ++ ((ps.map plainParam).filterMap id).map bareParam := by
  rw [← isSome_receiverOf, ← map_namedOf, ← hr, ← hp, lowerParams, List.map_append, List.map_map,
    List.map_map]
  cases f.receiver <;> rfl

/-- **A function** stays the same when its tokens move. -/
theorem IsFunction.moved {inMethod : Bool} {f : FunctionDef} {late : List LateFault}
    (h : IsFunction inMethod ts f late) (hl : late = []) (hf : faces us = faces ts) :
    ∃ f', IsFunction inMethod us f' [] ∧ plainFunction f' = plainFunction f := by
  obtain @⟨_, _, _, _, _, _, _, _, _, _, _, body, _, _, _, hu, hfn, hn, ho, hp, hr, hb⟩ := h
  simp only [List.append_eq_nil_iff] at hl
  obtain ⟨hl, hl', hl''⟩ := hl
  obtain ⟨us', _, rfl, hus, hf⟩ := faces_append hf
  obtain ⟨fn', _, rfl, hfn', -, hf⟩ := faces_cons_iff.mp hf
  obtain ⟨ns', _, rfl, hns, hf⟩ := faces_append hf
  obtain ⟨op', _, rfl, ho', -, hf⟩ := faces_cons_iff.mp hf
  obtain ⟨ps', _, rfl, hps, hf⟩ := faces_append hf
  obtain ⟨rs', bs', rfl, hrs, hbs⟩ := faces_append hf
  obtain ⟨params', hp', hparams⟩ := hp.moved hl hps
  obtain ⟨ret', hr', hret⟩ := hr.moved hl' hrs
  obtain ⟨body', hb', hbody⟩ := hb.moved hl'' hbs
  refine ⟨_, .mk (hu.moved hus) (hfn'.trans hfn) (hn.moved hns) (ho'.trans ho) hp' hr' hb', ?_⟩
  -- a function without a body is not lowered, so there is nothing else to compare
  cases body with
  | none =>
    obtain rfl := Option.map_eq_none_iff.mp hbody
    rfl
  | some ss =>
    obtain ⟨ss', rfl, hss⟩ := Option.map_eq_some_iff.mp hbody
    refine congrArg Except.ok ?_
    rw [lowerFunction, lowerFunction, Function.bare, Function.bare]
    congr 1
    · rw [lowerParams_bare rfl rfl, lowerParams_bare rfl rfl, hparams]
    · rw [bare_lowerStmts, bare_lowerStmts, hss]

/-! ### Items -/

/-- So do methods. -/
theorem IsMethods.moved {ms : List FunctionDef} {late : List LateFault} (h : IsMethods ts ms late)
    (hl : late = []) (hf : faces us = faces ts) :
    ∃ ms', IsMethods us ms' [] ∧ ms'.map plainFunction = ms.map plainFunction := by
  induction h generalizing us with
  | nil hc =>
    obtain ⟨cl', rfl, hc', -⟩ := faces_singleton hf
    exact ⟨[], .nil (hc'.trans hc), rfl⟩
  | cons hg _ ih =>
    obtain ⟨hl, hl'⟩ := List.append_eq_nil_iff.mp hl
    obtain ⟨ts', vs', rfl, hts, hvs⟩ := faces_append hf
    obtain ⟨g', hg', he⟩ := hg.moved hl hts
    obtain ⟨others', hothers, hes⟩ := ih hl' hvs
    exact ⟨g' :: others', .cons hg' hothers, List.cons_eq_cons.mpr ⟨he, hes⟩⟩

/-- **An item** has the same sort and the same functions when its tokens move. -/
theorem IsItem.moved {i : Item} {late : List LateFault} (h : IsItem ts i late) (hl : late = [])
    (hf : faces us = faces ts) :
    ∃ i', IsItem us i' [] ∧ i'.sort = i.sort ∧
      i'.functions.map plainFunction = i.functions.map plainFunction := by
  cases h with
  -- of a struct there is nothing but its sort, and of a block its methods count
  | structDef hk hn hr hs =>
    obtain ⟨word', _, rfl, hk', -, hf⟩ := faces_cons_iff.mp hf
    obtain ⟨ns', _, rfl, hns, hf⟩ := faces_append hf
    obtain ⟨rs', _, rfl, hrs, hf⟩ := faces_append hf
    obtain ⟨semicolon', rfl, hs', -⟩ := faces_singleton hf
    obtain ⟨target', hr', -⟩ := hr.moved hl hrs
    exact ⟨_, .structDef (hk'.trans hk) (hn.moved hns) hr' (hs'.trans hs), rfl, rfl⟩
  | traitDef hk hn ho hm =>
    obtain ⟨word', _, rfl, hk', -, hf⟩ := faces_cons_iff.mp hf
    obtain ⟨ns', _, rfl, hns, hf⟩ := faces_append hf
    obtain ⟨op', ms', rfl, ho', -, hms⟩ := faces_cons_iff.mp hf
    obtain ⟨methods', hm', he⟩ := hm.moved hl hms
    exact ⟨_, .traitDef (hk'.trans hk) (hn.moved hns) (ho'.trans ho) hm', rfl, he⟩
  | inherentImpl hk ht ho hm =>
    obtain ⟨hl, hl'⟩ := List.append_eq_nil_iff.mp hl
    obtain ⟨word', _, rfl, hk', -, hf⟩ := faces_cons_iff.mp hf
    obtain ⟨ts', _, rfl, hts, hf⟩ := faces_append hf
    obtain ⟨op', ms', rfl, ho', -, hms⟩ := faces_cons_iff.mp hf
    obtain ⟨target', ht', -⟩ := ht.moved hl' hts
    obtain ⟨methods', hm', he⟩ := hm.moved hl hms
    exact ⟨_, .inherentImpl (hk'.trans hk) ht' (ho'.trans ho) hm', rfl, he⟩
  | traitImpl hk hn hw ht ho hm =>
    obtain ⟨hl, hl'⟩ := List.append_eq_nil_iff.mp hl
    obtain ⟨word', _, rfl, hk', -, hf⟩ := faces_cons_iff.mp hf
    obtain ⟨ns', _, rfl, hns, hf⟩ := faces_append hf
    obtain ⟨forWord', _, rfl, hw', -, hf⟩ := faces_cons_iff.mp hf
    obtain ⟨ts', _, rfl, hts, hf⟩ := faces_append hf
    obtain ⟨op', ms', rfl, ho', -, hms⟩ := faces_cons_iff.mp hf
    obtain ⟨target', ht', -⟩ := ht.moved hl' hts
    obtain ⟨methods', hm', he⟩ := hm.moved hl hms
    exact ⟨_, .traitImpl (hk'.trans hk) (hn.moved hns) (hw'.trans hw) ht' (ho'.trans ho) hm', rfl,
      he⟩
  | function hg =>
    obtain ⟨g', hg', he⟩ := hg.moved hl hf
    exact ⟨_, .function hg', rfl, congrArg ([·]) he⟩

/-- **All functions of a text** stay the same when its tokens move. -/
theorem IsItems.moved {items : List Item} {late : List LateFault} (h : IsItems ts items late)
    (hl : late = []) (hf : faces us = faces ts) :
    ∃ items', IsItems us items' [] ∧ ∀ sort,
      (functionsOf sort items').map plainFunction = (functionsOf sort items).map plainFunction := by
  induction h generalizing us with
  | nil =>
    obtain rfl := faces_nil_iff.mp hf
    exact ⟨[], .nil, fun _ => rfl⟩
  | @cons _ _ i others _ _ hi _ ih =>
    obtain ⟨hl, hl'⟩ := List.append_eq_nil_iff.mp hl
    obtain ⟨ts', vs', rfl, hts, hvs⟩ := faces_append hf
    obtain ⟨i', hi', hsort, he⟩ := hi.moved hl hts
    obtain ⟨others', hothers, hes⟩ := ih hl' hvs
    refine ⟨i' :: others', .cons hi' hothers, fun sort => ?_⟩
    have hes := hes sort
    rw [functionsOf] at hes ⊢
    rw [List.flatMap_cons, List.map_append, hes, hsort]
    -- the functions of one sort are those of the first item, if it is of the sort, and of the others
    by_cases hs : i.sort = sort
    · rw [if_pos hs, he, functionsOf, functionsOf, List.flatMap_cons, List.map_append, if_pos hs]
    · rw [if_neg hs, functionsOf, functionsOf, List.flatMap_cons, List.map_append, if_neg hs]

end ClosureLint.Syntax
