import ClosureLint.Proofs.Grammar.Sound.Items
import ClosureLint.Proofs.Lexing

/-!
# Declared names are words

A path consists of names, so its text can be read again as the path that it is.

* `IsPath.names` — the segments of a path are names.
* `lexes_path` — the text of a path made of names falls into the tokens of that path.
* `struct_names`, `trait_names` — the paths of structs and traits that a source text declares are
  made of names. So no struct is named like a reference to something.
-/

namespace ClosureLint.Syntax

/-- A path that can be written: names, at least one. -/
def Path.Written (p : Path) : Prop := p ≠ [] ∧ ∀ s ∈ p, IsName s

/-! ### The text of a path -/

theorem Path.text_singleton (s : String) : Path.text [s] = s := by
  rw [← String.toList_inj, Path.text, String.toList_intercalate]
  simp [List.intercalate]

theorem Path.toList_text_cons (s : String) {p : Path} (h : p ≠ []) :
    (Path.text (s :: p)).toList = s.toList ++ ':' :: ':' :: (Path.text p).toList := by
  obtain ⟨t, p, rfl⟩ := List.exists_cons_of_ne_nil h
  rw [Path.text, Path.text, String.toList_intercalate, String.toList_intercalate]
  cases p <;> simp [List.intercalate]

/-- A segment more stands behind two colons. -/
theorem Path.text_concat {p : Path} (h : p ≠ []) (m : String) :
    Path.text (p ++ [m]) = p.text ++ "::" ++ m := by
  rw [← String.toList_inj]
  induction p with
  | nil => exact absurd rfl h
  | cons s p ih =>
    rw [List.cons_append, Path.toList_text_cons s (List.concat_ne_nil m p)]
    cases p with
    | nil =>
      rw [List.nil_append, Path.text_singleton, Path.text_singleton]
      simp
    | cons t p =>
      rw [ih (List.cons_ne_nil t p)]
      simp [Path.toList_text_cons s (List.cons_ne_nil t p)]

/-- The text of a path begins with a letter or an underscore. -/
theorem Path.Written.head_text {p : Path} (h : p.Written) :
    ∃ c, p.text.toList.head? = some c ∧ isWordStart c = true := by
  obtain ⟨s, p, rfl⟩ := List.exists_cons_of_ne_nil h.1
  obtain ⟨c, cs, hs, hc, -⟩ := h.2 s List.mem_cons_self
  refine ⟨c, ?_, hc⟩
  cases p with
  | nil => rw [Path.text_singleton, hs, String.toList_ofList]; rfl
  | cons t p =>
    rw [Path.toList_text_cons s (List.cons_ne_nil t p), hs, String.toList_ofList]
    rfl

/-- A name in front of what does not go on with it is a token. -/
private theorem lexes_name {s : String} (h : IsName s) {start q : Pos} {cs rest : List Char}
    {ts : List Token} (hstops : Stops isWordPart cs)
    (hrest : Lexes (start.advanceAll s.toList) cs ts q rest) :
    Lexes start (s.toList ++ cs) (⟨.name, s, start, start.advanceAll s.toList⟩ :: ts) q rest := by
  obtain ⟨c, ds, rfl, hc, hds, hk⟩ := h
  rw [String.toList_ofList] at hrest ⊢
  rw [← hk]
  exact .token (.word hc hds hstops) hrest

/-- **The text of a path falls into the tokens of the path**, in front of what does not go on with
it. -/
theorem lexes_path_before {p : Path} (h : p.Written) (start : Pos) {rest : List Char}
    (hrest : Stops isWordPart rest) :
    ∃ ts q, Lexes start (p.text.toList ++ rest) ts q rest ∧ IsPath ts p := by
  obtain ⟨hne, hnames⟩ := h
  induction p generalizing start with
  | nil => exact absurd rfl hne
  | cons s p ih =>
    obtain ⟨hs, hp⟩ := List.forall_mem_cons.mp hnames
    cases p with
    | nil =>
      rw [Path.text_singleton]
      exact ⟨_, _, lexes_name hs hrest .done, .single rfl⟩
    | cons t p =>
      -- a name ends where the colons begin
      have hstops : Stops isWordPart (':' :: ':' :: ((Path.text (t :: p)).toList ++ rest)) :=
        fun c hc => Option.some.inj hc ▸ rfl
      obtain ⟨ts, q, hlexes, hpath⟩ :=
        ih ((start.advanceAll s.toList).advanceAll [':', ':']) (List.cons_ne_nil t p) hp
      rw [Path.toList_text_cons s (List.cons_ne_nil t p), List.append_assoc, List.cons_append,
        List.cons_append]
      exact ⟨_, q, lexes_name hs hstops (.token .doubleColon hlexes), .cons rfl rfl hpath⟩

/-- So does the text of a path by itself. -/
theorem lexes_path {p : Path} (h : p.Written) (start : Pos) :
    ∃ ts q, Lexes start p.text.toList ts q [] ∧ IsPath ts p := by
  have hstops : Stops isWordPart [] := fun _ hc => nomatch hc
  have hlexes := lexes_path_before h start hstops
  rwa [List.append_nil] at hlexes

/-! ### Paths in a source text -/

/-- The segments of a path are names, when its tokens are. -/
theorem IsPath.written {ts : List Token} {p : Path} (h : IsPath ts p)
    (hnames : ∀ t ∈ ts, t.kind = .name → IsName t.text) : p.Written := by
  induction h with
  | single hk => exact ⟨nofun, List.forall_mem_singleton.mpr (hnames _ List.mem_cons_self hk)⟩
  | cons hk _ _ ih =>
    obtain ⟨-, hrest⟩ := ih fun t ht => hnames t (List.mem_cons_of_mem _ (List.mem_cons_of_mem _ ht))
    exact ⟨nofun, List.forall_mem_cons.mpr ⟨hnames _ List.mem_cons_self hk, hrest⟩⟩

/-- The path of a struct consists of tokens of the text. -/
theorem IsItems.struct_path {ts : List Token} {items : List Item} {late : List LateFault}
    (h : IsItems ts items late) {d : StructDef} (hd : .structDef d ∈ items) :
    ∃ ns, IsPath ns d.path ∧ ∀ t ∈ ns, t ∈ ts := by
  induction h with
  | nil => nomatch hd
  | @cons ts us _ _ _ _ hi _ ih =>
    rcases List.mem_cons.mp hd with rfl | hd
    · cases hi with
      | @structDef _ _ ns _ _ _ _ _ hpath =>
        refine ⟨ns, hpath, fun t ht => ?_⟩
        exact List.mem_append_left _ (List.mem_cons_of_mem _ (List.mem_append_left _ ht))
    · obtain ⟨ns, hpath, hns⟩ := ih hd
      exact ⟨ns, hpath, fun t ht => List.mem_append_right _ (hns t ht)⟩

/-- So does the path of a trait. -/
theorem IsItems.trait_path {ts : List Token} {items : List Item} {late : List LateFault}
    (h : IsItems ts items late) {d : TraitDef} (hd : .traitDef d ∈ items) :
    ∃ ns, IsPath ns d.path ∧ ∀ t ∈ ns, t ∈ ts := by
  induction h with
  | nil => nomatch hd
  | @cons ts us _ _ _ _ hi _ ih =>
    rcases List.mem_cons.mp hd with rfl | hd
    · cases hi with
      | @traitDef _ _ ns _ _ _ _ _ hpath =>
        refine ⟨ns, hpath, fun t ht => ?_⟩
        exact List.mem_append_left _ (List.mem_cons_of_mem _ (List.mem_append_left _ ht))
    · obtain ⟨ns, hpath, hns⟩ := ih hd
      exact ⟨ns, hpath, fun t ht => List.mem_append_right _ (hns t ht)⟩

variable {source : String} {p : Program}

/-- **The path of a declared struct** is made of names. -/
theorem struct_names (h : parse source = .ok p) {d : StructDef} (hd : d ∈ p.structs) :
    d.path.Written := by
  obtain ⟨hstuck, items, hitems, rfl⟩ := parse_sound h
  obtain ⟨q, hlexes⟩ := lexes_of_lex hstuck
  obtain ⟨i, hi, hid⟩ := List.mem_filterMap.mp hd
  split at hid
  · obtain rfl := Option.some.inj hid
    obtain ⟨ns, hpath, hns⟩ := hitems.struct_path hi
    exact hpath.written fun t ht => hlexes.isName t (hns t ht)
  · nomatch hid

/-- It begins with a letter or an underscore. -/
theorem struct_head (h : parse source = .ok p) {d : StructDef} (hd : d ∈ p.structs) :
    ∃ c, d.path.text.toList.head? = some c ∧ isWordStart c = true :=
  (struct_names h hd).head_text

/-- **The path of a declared trait** is made of names too. -/
theorem trait_names (h : parse source = .ok p) {d : TraitDef} (hd : d ∈ p.traits) :
    d.path.Written := by
  obtain ⟨hstuck, items, hitems, rfl⟩ := parse_sound h
  obtain ⟨q, hlexes⟩ := lexes_of_lex hstuck
  obtain ⟨i, hi, hid⟩ := List.mem_filterMap.mp hd
  split at hid
  · obtain rfl := Option.some.inj hid
    obtain ⟨ns, hpath, hns⟩ := hitems.trait_path hi
    exact hpath.written fun t ht => hlexes.isName t (hns t ht)
  · nomatch hid

end ClosureLint.Syntax
