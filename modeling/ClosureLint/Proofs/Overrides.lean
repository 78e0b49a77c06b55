import Mathlib.Data.List.DropRight
import Mathlib.Data.List.Forall2
import Mathlib.Data.List.TakeWhile
import ClosureLint.Lint.Level

/-!
# The last override that names a lint decides

Overrides are applied one after the other. Each sets the level of every lint it names, by name or by
group, and lints of one name share their level. An override that names nothing ends the run; what
was applied before it stays.

* `Lint.answersTo` — whether a name, once normalized, is the name or the group of a lint.
* `known`, `names` — whether a name stands for any lint, and for one of the lints of a given name.
* `applied`, `unknownLint?`, `decided` — the overrides that are applied, the one that ends the run,
  and the level that overrides give the lints of a name.
* `setLevel_run` — what one override does to the levels.
* `applyAll_run` — what a list of overrides does.
* `normalizeLintName_idem`, `applyAll_respelled` — how a name is spelled shows only in an error.
* `overrides_in_order` — the level of each lint after any list of overrides.
-/

namespace ClosureLint

/-! ### Spelling -/

namespace Text

/-- The characters that are left have no blank in front. -/
theorem head_stripChars (cs : List Char) : ∀ c ∈ (stripChars cs).head?, isBlank c = false := by
  intro c hc
  -- the characters that are left are the front of what the first of the two passes leaves
  have hfront : stripChars cs <+: cs.dropWhile isBlank := by
    have h := (List.dropWhile_suffix isBlank (l := (cs.dropWhile isBlank).reverse)).reverse
    rwa [List.reverse_reverse] at h
  obtain ⟨rest, hrest⟩ := hfront
  have hhead : (cs.dropWhile isBlank).head? = some c := by
    rw [← hrest, List.head?_append, Option.mem_def.mp hc]
    rfl
  have h := List.head?_dropWhile_not isBlank cs
  rw [hhead] at h
  simpa using h

/-- Nothing is dropped where no blank stands in front. -/
theorem dropWhile_eq_self {cs : List Char} (h : ∀ c ∈ cs.head?, isBlank c = false) :
    cs.dropWhile isBlank = cs := by
  cases cs with
  | nil => rfl
  | cons c cs => rw [List.dropWhile_cons, h c rfl, if_neg Bool.false_ne_true]

/-- Blanks are stripped once and for all. -/
theorem stripChars_idem (cs : List Char) : stripChars (stripChars cs) = stripChars cs := by
  conv => lhs; rw [stripChars, dropWhile_eq_self (head_stripChars cs)]
  rw [stripChars, List.reverse_reverse, List.dropWhile_idempotent]

/-- Blanks at the ends are dropped from the image of a text as from the text, where the map keeps
what is blank. -/
theorem stripChars_map {f : Char → Char} (hf : ∀ c, isBlank (f c) = isBlank c) (cs : List Char) :
    stripChars (cs.map f) = (stripChars cs).map f := by
  have hcomp : isBlank ∘ f = isBlank := funext hf
  simp only [stripChars, List.dropWhile_map, ← List.map_reverse, hcomp]

end Text

/-- A hyphen is read as an underscore. -/
def underscored (c : Char) : Char := if c = '-' then '_' else c

/-- A hyphen is replaced once and for all. -/
theorem underscored_idem (c : Char) : underscored (underscored c) = underscored c := by
  by_cases h : c = '-'
  · subst h
    rfl
  · have hself : underscored c = c := if_neg h
    rw [hself, hself]

/-- What replaces a hyphen is no blank either. -/
theorem isBlank_underscored (c : Char) : Text.isBlank (underscored c) = Text.isBlank c := by
  by_cases h : c = '-'
  · subst h
    rfl
  · rw [underscored, if_neg h]

/-- A name is stripped, and then its hyphens are replaced. -/
theorem normalizeLintName_toList (name : String) :
    (normalizeLintName name).toList = (Text.stripChars name.toList).map underscored := by
  rw [normalizeLintName, String.toList_map, Text.strip, String.toList_ofList]
  rfl

/-- A normalized name is its own normal form. -/
theorem normalizeLintName_idem (name : String) :
    normalizeLintName (normalizeLintName name) = normalizeLintName name := by
  apply String.toList_injective
  have htwice : underscored ∘ underscored = underscored := funext underscored_idem
  rw [normalizeLintName_toList, normalizeLintName_toList, Text.stripChars_map isBlank_underscored,
    Text.stripChars_idem, List.map_map, htwice]

/-! ### What a name stands for -/

/-- Whether a name, once normalized, is the name or the group of the lint. -/
def Lint.answersTo (l : Lint) (name : String) : Bool :=
  normalizeLintName name == l.name || normalizeLintName name == l.group

namespace Overrides

/-- Whether a name stands for any of the lints. -/
def known (lints : List Lint) (name : String) : Bool := lints.any fun l => l.answersTo name

/-- Whether a name stands for one of the lints that are called `called`. -/
def names (lints : List Lint) (called name : String) : Bool :=
  lints.any fun l => l.name == called && l.answersTo name

/-- The overrides before the first that stands for no lint. -/
def applied (lints : List Lint) (os : List (String × Level)) : List (String × Level) :=
  os.takeWhile fun o => known lints o.1

/-- The first override that stands for no lint. -/
def unknownLint? (lints : List Lint) (os : List (String × Level)) : Option UnknownLint :=
  (os.find? fun o => !known lints o.1).map fun o => ⟨o.1⟩

/-- The level in the last override that names one of the lints called `called`. -/
def decided (lints : List Lint) (called : String) (os : List (String × Level)) : Option Level :=
  (os.reverse.find? fun o => names lints called o.1).map Prod.snd

/-- The default level of the first lint that has the name of `l`. -/
def defaultOf (lints : List Lint) (l : Lint) : Level :=
  ((lints.find? fun l' => l'.name == l.name).getD l).defaultLevel

variable {lints : List Lint} {os : List (String × Level)} {name : String} {level : Level}

/-- The first of the overrides decides where no later one does. -/
theorem decided_cons (called : String) :
    decided lints called ((name, level) :: os)
      = (decided lints called os).or (if names lints called name then some level else none) := by
  rw [decided, List.reverse_cons, List.find?_append, Option.map_or, decided, List.find?_singleton]
  by_cases h : names lints called name
  · rw [if_pos h, if_pos h]
    rfl
  · rw [if_neg h, if_neg h]
    rfl

/-- An override that stands for a lint is applied, and the run goes on. -/
theorem applied_known (h : known lints name = true) :
    applied lints ((name, level) :: os) = (name, level) :: applied lints os :=
  List.takeWhile_cons_of_pos h

/-- One that does not ends the run. -/
theorem applied_unknown (h : known lints name = false) :
    applied lints ((name, level) :: os) = [] :=
  List.takeWhile_cons_of_neg (Bool.eq_false_iff.mp h)

/-- Then it is no error, -/
theorem unknownLint?_known (h : known lints name = true) :
    unknownLint? lints ((name, level) :: os) = unknownLint? lints os := by
  rw [unknownLint?, List.find?_cons_of_neg (by simp [h]), unknownLint?]

/-- and there it is the error. -/
theorem unknownLint?_unknown (h : known lints name = false) :
    unknownLint? lints ((name, level) :: os) = some ⟨name⟩ := by
  rw [unknownLint?, List.find?_cons_of_pos (by simp [h])]
  rfl

/-- Whatever is applied stands for a lint. -/
theorem known_of_mem_applied {o : String × Level} (h : o ∈ applied lints os) :
    known lints o.1 = true := by
  have hall : (applied lints os).all (fun o => known lints o.1) = true := List.all_takeWhile
  exact List.all_eq_true.mp hall o h

/-- Either all overrides are applied, or the first that stands for no lint ends the run. -/
theorem applied_cases (lints : List Lint) (os : List (String × Level)) :
    (applied lints os = os ∧ unknownLint? lints os = none) ∨
      ∃ name level rest, os = applied lints os ++ (name, level) :: rest ∧
        known lints name = false ∧ unknownLint? lints os = some ⟨name⟩ := by
  induction os with
  | nil => exact .inl ⟨rfl, rfl⟩
  | cons o os ih =>
    obtain ⟨name, level⟩ := o
    cases h : known lints name with
    | true =>
      rw [applied_known h, unknownLint?_known h]
      rcases ih with ⟨hall, hnone⟩ | ⟨name', level', rest, hsplit, hunknown, hfirst⟩
      · exact .inl ⟨congrArg _ hall, hnone⟩
      · exact .inr ⟨name', level', rest, congrArg _ hsplit, hunknown, hfirst⟩
    | false =>
      rw [applied_unknown h, unknownLint?_unknown h]
      exact .inr ⟨name, level, os, rfl, h, rfl⟩

/-- Where every override stands for some lint, all of them are applied. -/
theorem applied_of_known (h : ∀ o ∈ os, known lints o.1 = true) :
    applied lints os = os ∧ unknownLint? lints os = none := by
  rcases applied_cases lints os with hall | ⟨name, level, rest, hsplit, hunknown, -⟩
  · exact hall
  · have hmem : (name, level) ∈ os := by
      rw [hsplit]
      exact List.mem_append_right _ List.mem_cons_self
    rw [h _ hmem] at hunknown
    nomatch hunknown

end Overrides

namespace Config

open Overrides

variable {c c' : Config} {name : String} {level : Level}

/-! ### One override -/

/-- The levels that are looked up by the name of a lint. -/
def levelOf (c : Config) (called : String) : Option Level := c.levels.lookup called

/-- The lints that are named are those that answer to the name. -/
theorem named_eq (c : Config) (name : String) :
    c.named name = c.lints.filter fun l => l.answersTo name := rfl

/-- None is named exactly if the name stands for none. -/
theorem named_eq_nil : c.named name = [] ↔ known c.lints name = false := by
  rw [named_eq, List.filter_eq_nil_iff, known, List.any_eq_false]

/-- The level looked up behind new levels, all of which are the same. -/
theorem lookup_same_level (lints : List Lint) (called : String) (levels : List (String × Level)) :
    (lints.map (fun l => (l.name, level)) ++ levels).lookup called
      = if lints.any (fun l => l.name == called) then some level else levels.lookup called := by
  induction lints with
  | nil => rfl
  | cons l lints ih =>
    rw [List.map_cons, List.cons_append, List.any_cons]
    -- the first entry is the one looked for, or it is passed by
    by_cases h : l.name = called
    · rw [h, List.lookup_cons_self, beq_self_eq_true, Bool.true_or, if_pos rfl]
    · rw [List.lookup_cons, beq_false_of_ne (Ne.symm h), beq_false_of_ne h, Bool.false_or]
      exact ih

/-- An override that names no lint is refused. -/
theorem setLevel_unknown (h : known c.lints name = false) (level : Level) :
    c.setLevel name level = .error ⟨name⟩ := by
  unfold setLevel
  rw [named_eq_nil.mpr h]
  rfl

/-- An override that names lints sets the level of each, and of the lints that share their
names. -/
theorem setLevel_run (h : known c.lints name = true) (level : Level) :
    ∃ c' : Config, c.setLevel name level = .ok c' ∧ c'.lints = c.lints ∧
      ∀ called, c'.levelOf called
        = if names c.lints called name then some level else c.levelOf called := by
  cases hnamed : c.named name with
  | nil => exact absurd (named_eq_nil.mp hnamed) (by simp [h])
  | cons l ls =>
    -- the new levels come in front, one for each lint that is named, under the lint's own name
    refine ⟨{ c with levels := (c.named name).map (fun l => (l.name, level)) ++ c.levels }, ?run,
      rfl, fun called => ?_⟩
    case run =>
      unfold setLevel
      rw [hnamed]
      rfl
    have hsame : (c.named name).any (fun l => l.name == called) = names c.lints called name := by
      rw [named_eq, List.any_filter, names]
      simp only [Bool.and_comm]
    rw [levelOf, lookup_same_level, hsame, levelOf]

/-! ### A list of overrides -/

/-- The first override is applied, and the others go on from there. -/
theorem applyAll_known (h : known c.lints name = true) (level : Level)
    (rest : List (String × Level)) :
    ∃ c' : Config, c.applyAll ((name, level) :: rest) = c'.applyAll rest ∧ c'.lints = c.lints ∧
      ∀ called, c'.levelOf called
        = if names c.lints called name then some level else c.levelOf called := by
  obtain ⟨c', hset, hlints, hlevels⟩ := setLevel_run h level
  refine ⟨c', ?_, hlints, hlevels⟩
  rw [applyAll, hset]

/-- **An override that names no lint** changes nothing. -/
theorem applyAll_unknown (h : known c.lints name = false) (level : Level)
    (rest : List (String × Level)) : c.applyAll ((name, level) :: rest) = (c, some ⟨name⟩) := by
  rw [applyAll, setLevel_unknown h]

/-- **After a list of overrides** each level is that of the last override that was applied to it, or
else what it was. -/
theorem applyAll_run (c : Config) (os : List (String × Level)) :
    (c.applyAll os).2 = unknownLint? c.lints os ∧ (c.applyAll os).1.lints = c.lints ∧
      ∀ called, (c.applyAll os).1.levelOf called
        = (decided c.lints called (applied c.lints os)).or (c.levelOf called) := by
  -- the configuration that is left of each override is the one the next starts from
  induction os generalizing c with
  | nil => exact ⟨rfl, rfl, fun _ => rfl⟩
  | cons o os ih =>
    obtain ⟨name, level⟩ := o
    cases h : known c.lints name with
    | true =>
      obtain ⟨c', hrun, hlints, hlevels⟩ := applyAll_known h level os
      obtain ⟨herror, hrest, hlater⟩ := ih c'
      rw [hlints] at herror hrest hlater
      rw [hrun, applied_known h, unknownLint?_known h]
      refine ⟨herror, hrest, fun called => ?_⟩
      -- this override is the one that counts only if no later one names the lint
      rw [hlater called, hlevels called, decided_cons, Option.or_assoc]
      by_cases hnames : names c.lints called name
      · rw [if_pos hnames, if_pos hnames]
        rfl
      · rw [if_neg hnames, if_neg hnames]
        rfl
    | false =>
      rw [applyAll_unknown h, applied_unknown h, unknownLint?_unknown h]
      exact ⟨rfl, rfl, fun _ => rfl⟩

/-- If none is refused, the configuration is that of the whole run. -/
theorem apply_ok {os : List (String × Level)} (h : (c.applyAll os).2 = none) :
    c.apply os = .ok (c.applyAll os).1 := by
  rcases hrun : c.applyAll os with ⟨c', _ | e⟩
  · rw [apply, hrun]
    rfl
  · rw [hrun] at h
    nomatch h

/-- Otherwise the error is all that is returned. -/
theorem apply_error {os : List (String × Level)} {e : UnknownLint}
    (h : (c.applyAll os).2 = some e) : c.apply os = .error e := by
  rcases hrun : c.applyAll os with ⟨c', _ | e'⟩
  · rw [hrun] at h
    nomatch h
  · rw [hrun] at h
    rw [apply, hrun]
    exact congrArg _ (Option.some.inj h)

/-- The overrides that are applied are applied to the end, with the same outcome. -/
theorem applyAll_applied (c : Config) (os : List (String × Level)) :
    c.applyAll (applied c.lints os) = ((c.applyAll os).1, none) := by
  induction os generalizing c with
  | nil => rfl
  | cons o os ih =>
    obtain ⟨name, level⟩ := o
    cases h : known c.lints name with
    -- the lints stay the same, so what is applied of the others stays the same too
    | true =>
      obtain ⟨c', hset, hlints, -⟩ := setLevel_run h level
      rw [applied_known h, applyAll, applyAll, hset, ← hlints]
      exact ih c'
    | false =>
      rw [applied_unknown h, applyAll_unknown h]
      rfl

/-! ### How a name is spelled -/

/-- Two overrides that set the same level and name the same, perhaps spelled differently. -/
structure Respells (o o' : String × Level) : Prop where
  name : normalizeLintName o'.1 = normalizeLintName o.1
  level : o'.2 = o.2

/-- A name may be written as it is compared. -/
theorem respells_normalized (name : String) (level : Level) :
    Respells (name, level) (normalizeLintName name, level) := ⟨normalizeLintName_idem name, rfl⟩

/-- An override is refused for its name, and only if the name stands for no lint. -/
theorem setLevel_error {e : UnknownLint} (h : c.setLevel name level = .error e) :
    e = ⟨name⟩ ∧ known c.lints name = false := by
  cases hknown : known c.lints name with
  | true =>
    obtain ⟨c', hset, -⟩ := setLevel_run hknown level
    rw [hset] at h
    nomatch h
  | false =>
    rw [setLevel_unknown hknown] at h
    exact ⟨(Except.error.inj h).symm, rfl⟩

/-- Spelled differently, an override sets the same levels, or is refused under the name it has. -/
theorem setLevel_respelled {name' : String} (h : normalizeLintName name' = normalizeLintName name)
    (c : Config) (level : Level) :
    c.setLevel name' level = (c.setLevel name level).mapError fun _ => ⟨name'⟩ := by
  -- a lint is asked for the normalized name alone
  have hnamed : c.named name' = c.named name := by
    simp only [named_eq, Lint.answersTo, h]
  unfold setLevel
  rw [hnamed]
  cases c.named name <;> rfl

/-- **How names are spelled** does not show in the levels, nor in whether all overrides were
applied. -/
theorem applyAll_respelled {os os' : List (String × Level)} (h : List.Forall₂ Respells os os')
    (c : Config) :
    (c.applyAll os').1 = (c.applyAll os).1 ∧
      (c.applyAll os').2.map (normalizeLintName ·.name)
        = (c.applyAll os).2.map (normalizeLintName ·.name) := by
  induction h generalizing c with
  | nil => exact ⟨rfl, rfl⟩
  | @cons o o' os os' ho _ ih =>
    obtain ⟨name, level⟩ := o
    obtain ⟨name', level'⟩ := o'
    obtain ⟨hname, rfl⟩ := ho
    simp only at hname
    rw [applyAll, applyAll, setLevel_respelled hname]
    cases hset : c.setLevel name level' with
    | ok c' => exact ih c'
    | error e =>
      -- both runs end here, each with the name as it is spelled there
      obtain ⟨rfl, -⟩ := setLevel_error hset
      exact ⟨rfl, congrArg some hname⟩

/-! ### From the defaults on -/

/-- At the start, each name has the default of the first lint of that name. -/
theorem levelOf_ofLints (lints : List Lint) (called : String) :
    (ofLints lints).levelOf called
      = (lints.find? fun l => l.name == called).map Lint.defaultLevel := by
  change (lints.map fun l => (l.name, l.defaultLevel)).lookup called = _
  induction lints with
  | nil => rfl
  | cons l lints ih =>
    rw [List.map_cons, List.find?_cons]
    by_cases h : l.name = called
    · rw [h, List.lookup_cons_self, beq_self_eq_true]
      rfl
    · rw [List.lookup_cons, beq_false_of_ne (Ne.symm h), beq_false_of_ne h]
      exact ih

/-- The level of a lint after a run from the start. -/
theorem level_applyAll (lints : List Lint) (os : List (String × Level)) (l : Lint) :
    ((ofLints lints).applyAll os).1.level l
      = (decided lints l.name (applied lints os)).getD (defaultOf lints l) := by
  have hlevel := (applyAll_run (ofLints lints) os).2.2 l.name
  rw [level, ← levelOf, hlevel, levelOf_ofLints, Option.getD_or, defaultOf]
  -- what is left is the default of the first lint of the name, if there is one
  congr 1
  cases lints.find? fun l' => l'.name == l.name <;> rfl

/-- **The last override that names a lint decides.** For any lints, whose names and groups may
coincide, and any overrides: those before the first that stands for no lint are applied, and that
one is reported. The level of a lint is then the one of the last override applied that names a lint
of its name, or else the default of the first lint of its name. An override that is refused changes
nothing, and how names are spelled shows in an error alone. -/
theorem overrides_in_order (lints : List Lint) (os : List (String × Level)) :
    let start := ofLints lints
    let after := (start.applyAll os).1
    (∀ o ∈ applied lints os, known lints o.1 = true) ∧
    ((applied lints os = os ∧ start.apply os = .ok after) ∨
      ∃ name level rest, os = applied lints os ++ (name, level) :: rest ∧
        known lints name = false ∧ start.apply os = .error ⟨name⟩) ∧
    start.apply (applied lints os) = .ok after ∧
    (∀ l, after.level l = (decided lints l.name (applied lints os)).getD (defaultOf lints l)) ∧
    (∀ name level e, after.setLevel name level = .error e →
      e = ⟨name⟩ ∧ known lints name = false ∧ after.applyAll [(name, level)] = (after, some e)) ∧
    (∀ os', List.Forall₂ (fun o o' => o' = o ∨ o' = (normalizeLintName o.1, o.2)) os os' →
      (start.applyAll os').1 = after ∧
      (start.applyAll os').2.map (normalizeLintName ·.name)
        = (start.applyAll os).2.map (normalizeLintName ·.name)) := by
  intro start after
  -- one lemma tells the whole run: its error, its lints and their levels
  obtain ⟨herror, hlints, -⟩ := applyAll_run start os
  refine ⟨fun o ho => known_of_mem_applied ho, ?outcome, ?again, level_applyAll lints os, ?refused,
    ?respelled⟩
  case outcome =>
    -- everything was applied, or the run ended at an override that stands for no lint
    rcases applied_cases lints os with ⟨hall, hnone⟩ | ⟨name, level, rest, hsplit, hunknown, hfirst⟩
    · exact .inl ⟨hall, apply_ok (herror.trans hnone)⟩
    · exact .inr ⟨name, level, rest, hsplit, hunknown, apply_error (herror.trans hfirst)⟩
  case again =>
    have hrun : start.applyAll (applied lints os) = (after, none) := applyAll_applied start os
    rw [apply_ok (congrArg Prod.snd hrun), hrun]
  case refused =>
    intro name level e h
    obtain ⟨rfl, hunknown⟩ := setLevel_error h
    -- the lints are still those of the start
    rw [hlints] at hunknown
    refine ⟨rfl, hunknown, ?_⟩
    rw [applyAll, h]
  case respelled =>
    intro os' h
    refine applyAll_respelled (h.imp fun o o' ho => ?_) start
    rcases ho with rfl | rfl
    · exact ⟨rfl, rfl⟩
    · exact respells_normalized o.1 o.2

/-- Three lints, two of which share their name. -/
def sharedName : List Lint :=
  [{ name := "shadowed", group := "style", defaultLevel := .warn },
    { name := "shadowed", group := "for_loops", defaultLevel := .allow },
    { name := "counted", group := "for_loops", defaultLevel := .warn }]

/-- Overrides by group and by name, with an unknown name in the middle. -/
def mixedOverrides : List (String × Level) :=
  [("counted", .allow), (" for-loops", .deny), ("counted", .warn), ("missing-lint", .deny),
    ("style", .allow)]

/-- **A group that holds one lint of a name** decides for the other as well, and what stands behind
an unknown name does not count. -/
theorem mixedOverrides_levels :
    let start := ofLints sharedName
    let after := (start.applyAll mixedOverrides).1
    let tidied := [("counted", .allow), ("for_loops", .deny), ("counted", .warn),
      ("missing_lint", .deny), ("style", .allow)]
    start.apply mixedOverrides = .error ⟨"missing-lint"⟩ ∧
    sharedName.map after.level = [.deny, .deny, .warn] ∧
    after.setLevel "missing-lint" .deny = .error ⟨"missing-lint"⟩ ∧
    after.applyAll [("missing-lint", .deny)] = (after, some ⟨"missing-lint"⟩) ∧
    (start.applyAll tidied).1 = after ∧ (start.applyAll tidied).2 = some ⟨"missing_lint"⟩ := by
  intro start after tidied
  obtain ⟨-, -, -, hlevel, hrefused, hrespelled⟩ := overrides_in_order sharedName mixedOverrides
  have hmissing : after.setLevel "missing-lint" .deny = .error ⟨"missing-lint"⟩ :=
    setLevel_unknown (by decide +kernel) .deny
  have htidied : List.Forall₂ (fun o o' => o' = o ∨ o' = (normalizeLintName o.1, o.2))
      mixedOverrides tidied :=
    .cons (.inl rfl) <| .cons (.inr (by decide +kernel)) <| .cons (.inl rfl) <|
      .cons (.inr (by decide +kernel)) <| .cons (.inl rfl) .nil
  refine ⟨apply_error (by decide +kernel), ?levels, hmissing, (hrefused _ _ _ hmissing).2.2,
    (hrespelled tidied htidied).1, by decide +kernel⟩
  case levels =>
    rw [funext hlevel]
    decide +kernel

end Config

end ClosureLint
