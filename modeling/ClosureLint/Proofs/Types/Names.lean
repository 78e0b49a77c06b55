import ClosureLint.Proofs.Grammar.Names
import ClosureLint.Typing.TypeExpr

/-!
# Looking up structs

* `find?_ofList` — a use that finds a struct gives its full path, or its last segment.
* `find?_text` — the full path of a declared struct finds that struct.
* `lastSegment_text` — the last segment of a path's text is that of the path.
* `Path.text_inj` — paths that are made of names are told apart by their texts.
-/

namespace ClosureLint

open ClosureLint.Syntax (Path IsPath)

/-! ### The index by last segment -/

/-- The names are those of `l`, and what is filed under a segment ends in it. -/
structure StructNames.Holds (n : StructNames) (l : List String) : Prop where
  paths : ∀ x, x ∈ n.paths ↔ x ∈ l
  byLast : ∀ e ∈ n.byLast, ∀ x ∈ e.2, x ∈ l ∧ lastSegment x = e.1

namespace StructNames

variable {n : StructNames} {l : List String} {path : String}

theorem Holds.endingIn (h : n.Holds l) {segment : String} :
    ∀ x ∈ n.endingIn segment, x ∈ l ∧ lastSegment x = segment := by
  intro x hx
  unfold StructNames.endingIn at hx
  cases hlookup : n.byLast.lookup segment with
  | none =>
    rw [hlookup] at hx
    exact absurd hx List.not_mem_nil
  | some paths =>
    rw [hlookup] at hx
    -- what is looked up is one of the entries
    obtain ⟨before, behind, hsplit, -⟩ := List.lookup_eq_some_iff.mp hlookup
    refine h.byLast (segment, paths) ?_ x hx
    rw [hsplit]
    exact List.mem_append_right _ List.mem_cons_self

theorem Holds.insert (h : n.Holds l) (path : String) : (n.insert path).Holds (l ++ [path]) := by
  have hkeep : ∀ {x}, x ∈ l → x ∈ l ++ [path] := fun hx => List.mem_append_left _ hx
  unfold StructNames.insert
  split
  · -- a path that is declared again is not filed again
    next hmem =>
    refine ⟨fun x => ?_, fun e he x hx => ⟨hkeep (h.byLast e he x hx).1, (h.byLast e he x hx).2⟩⟩
    rw [h.paths, List.mem_append, List.mem_singleton]
    refine ⟨.inl, fun hx => hx.elim id fun hx => ?_⟩
    exact hx ▸ (h.paths path).mp hmem
  · refine ⟨fun x => ?_, List.forall_mem_cons.mpr ⟨?_, fun e he x hx => ?_⟩⟩
    · show x ∈ n.paths ++ [path] ↔ _
      rw [List.mem_append, List.mem_append, h.paths]
    · refine List.forall_mem_append.mpr ⟨fun x hx => ?_, List.forall_mem_singleton.mpr ?_⟩
      · exact ⟨hkeep (h.endingIn x hx).1, (h.endingIn x hx).2⟩
      · exact ⟨List.mem_append_right _ List.mem_cons_self, rfl⟩
    · exact ⟨hkeep (h.byLast e he x hx).1, (h.byLast e he x hx).2⟩

theorem ofList_holds (l : List String) : (ofList l).Holds l := by
  -- by induction on the paths that are still to be filed
  have hfold : ∀ (behind before : List String) (n : StructNames), n.Holds before →
      (behind.foldl StructNames.insert n).Holds (before ++ behind) := by
    intro behind
    induction behind with
    | nil =>
      intro before n h
      rwa [List.append_nil]
    | cons path behind ih =>
      intro before n h
      have hrest := ih (before ++ [path]) _ (h.insert path)
      rwa [List.append_assoc] at hrest
  exact hfold l [] {} ⟨fun x => ⟨fun h => absurd h List.not_mem_nil, fun h => absurd h List.not_mem_nil⟩,
    fun e he => absurd he List.not_mem_nil⟩

/-- **A use that finds a struct** spells its full path, or is its last segment. -/
theorem find?_ofList {segments : Path} {full : String}
    (h : (ofList l).find? segments = some full) :
    full ∈ l ∧ (segments.text = full ∨ segments = [lastSegment full]) := by
  have hholds := ofList_holds l
  unfold StructNames.find? at h
  dsimp only at h
  split at h
  -- found by its full path
  · next hmem =>
    obtain rfl := Option.some.inj h
    exact ⟨(hholds.paths _).mp hmem, .inl rfl⟩
  · split at h
    · next segment _ =>
      split at h
      · next path hpaths =>
        obtain rfl := Option.some.inj h
        -- found by its last segment, which no other path has
        obtain ⟨hmem, hlast⟩ := hholds.endingIn path (hpaths ▸ List.mem_singleton_self path)
        exact ⟨hmem, .inr (hlast ▸ rfl)⟩
      · cases h
    · cases h

/-- The full path of a struct finds it. -/
theorem find?_text {segments : Path} (h : segments.text ∈ l) :
    (ofList l).find? segments = some segments.text :=
  if_pos (((ofList_holds l).paths _).mpr h)

end StructNames

/-! ### Texts of paths -/

theorem not_mem_colon_of_isName {s : String} (h : IsName s) : ':' ∉ s.toList := by
  obtain ⟨c, cs, rfl, hc, hcs, -⟩ := h
  rw [String.toList_ofList]
  refine fun hmem => ?_
  rcases List.mem_cons.mp hmem with rfl | hmem
  · exact absurd hc (by decide)
  · exact absurd (hcs ':' hmem) (by decide)

theorem afterLastColons_eq_none : (cs : List Char) → ':' ∉ cs → afterLastColons cs = none
  | [], _ => rfl
  | [_], _ => rfl
  | c :: d :: cs, h => by
    rw [afterLastColons, afterLastColons_eq_none (d :: cs) fun hmem => h (List.mem_cons_of_mem c hmem)]
    refine if_neg fun hc => h ?_
    rw [hc.1]
    exact List.mem_cons_self

/-- What has no colon is its own last segment. -/
theorem lastSegment_of_not_mem {s : String} (h : ':' ∉ s.toList) : lastSegment s = s := by
  rw [lastSegment, afterLastColons_eq_none _ h]

/-- A name is its own last segment. -/
theorem lastSegment_of_isName {s : String} (h : IsName s) : lastSegment s = s :=
  lastSegment_of_not_mem (not_mem_colon_of_isName h)

/-- What stands in front of two colons does not count. -/
theorem afterLastColons_append (cs : List Char) {ds es : List Char}
    (h : afterLastColons ds = some es) : afterLastColons (cs ++ ds) = some es := by
  induction cs with
  | nil => exact h
  | cons c cs ih =>
    rw [List.cons_append]
    -- there is more text behind, so the search goes on past this character
    obtain ⟨d, rest, hrest⟩ : ∃ d rest, cs ++ ds = d :: rest := by
      refine List.exists_cons_of_ne_nil fun hnil => ?_
      rw [(List.append_eq_nil_iff.mp hnil).2] at h
      cases h
    rw [hrest] at ih ⊢
    rw [afterLastColons, ih]

theorem afterLastColons_colons {cs : List Char} (h : ':' ∉ cs) :
    afterLastColons (':' :: ':' :: cs) = some cs := by
  -- one colon alone is no separator
  have hone : afterLastColons (':' :: cs) = none := by
    cases cs with
    | nil => rfl
    | cons c cs =>
      rw [afterLastColons, afterLastColons_eq_none _ h]
      refine if_neg ?_
      rintro ⟨-, rfl⟩
      exact h List.mem_cons_self
  rw [afterLastColons, hone]
  exact if_pos ⟨rfl, rfl⟩

/-- The path has segments, and there is no colon in any of them. -/
structure Syntax.Path.Segmented (path : Path) : Prop where
  nonempty : path ≠ []
  plain : ∀ s ∈ path, ':' ∉ s.toList

theorem Syntax.Path.Written.segmented {p : Path} (h : p.Written) : p.Segmented :=
  ⟨h.1, fun s hs => not_mem_colon_of_isName (h.2 s hs)⟩

/-- **The last segment of a path's text** is that of the path, when its segments have no colons. -/
theorem lastSegment_text {p : Path} (h : p.Segmented) : lastSegment p.text = p.last := by
  -- with two segments and more there are colons, and only the last ones count
  have hcolons : ∀ p : Path, p ≠ [] → (∀ s ∈ p, ':' ∉ s.toList) → 1 < p.length →
      afterLastColons p.text.toList = some p.last.toList := by
    intro p
    induction p with
    | nil => exact fun hne => absurd rfl hne
    | cons s p ih =>
      intro _ h hlength
      obtain ⟨-, hrest⟩ := List.forall_mem_cons.mp h
      have hne : p ≠ [] := List.ne_nil_of_length_pos (Nat.lt_of_succ_lt_succ hlength)
      rw [Syntax.Path.toList_text_cons s hne]
      obtain ⟨t, q, rfl⟩ := List.exists_cons_of_ne_nil hne
      cases q with
      | nil =>
        rw [Syntax.Path.text_singleton]
        exact afterLastColons_append _ (afterLastColons_colons (hrest t List.mem_cons_self))
      | cons u q =>
        have hlater := ih hne hrest (Nat.succ_lt_succ (Nat.succ_pos _))
        exact afterLastColons_append s.toList (afterLastColons_append [':', ':'] hlater)
  obtain ⟨hne, h⟩ := h
  obtain ⟨s, q, rfl⟩ := List.exists_cons_of_ne_nil hne
  cases q with
  | nil =>
    rw [Syntax.Path.text_singleton]
    exact lastSegment_of_not_mem (h s List.mem_cons_self)
  | cons t q =>
    rw [lastSegment, hcolons _ hne h (Nat.succ_lt_succ (Nat.succ_pos _))]
    exact String.ofList_toList

/-- The tokens of a path are those of no other. -/
theorem IsPath.unique {ts : List Token} {p p' : Path} (h : IsPath ts p) (h' : IsPath ts p') :
    p = p' := by
  induction h generalizing p' with
  | single _ =>
    cases h' with
    | single _ => rfl
  | cons _ _ _ ih =>
    cases h' with
    | cons _ _ h' => rw [ih h']

/-- **Paths with the same text** are the same. -/
theorem Path.text_inj {p p' : Path} (hp : p.Written) (hp' : p'.Written) (h : p.text = p'.text) :
    p = p' := by
  obtain ⟨ts, q, hlexes, hpath⟩ := Syntax.lexes_path hp {}
  obtain ⟨ts', q', hlexes', hpath'⟩ := Syntax.lexes_path hp' {}
  -- both paths are formed by the tokens of the one text
  have htokens := hlexes.lexFrom_eq
  rw [h, hlexes'.lexFrom_eq] at htokens
  obtain rfl : ts' = ts := congrArg Lexed.tokens htokens
  exact IsPath.unique hpath hpath'

end ClosureLint
