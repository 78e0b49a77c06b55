import ClosureLint.CommandLine.Run
import ClosureLint.Proofs.Outcome
import ClosureLint.Proofs.Overrides
import Mathlib.Data.String.Basic

/-!
# Each file is linted on its own

A run goes through its files in order, all of them under the levels that the flags set together.
What it reports is what a run of each file alone reports, one file after the other; a file without
a text is reported as such, and the others are none the worse for it.

* `FlagWords`, `FileWords` — words of a command line that are flags, or that name files.
* `AsksFor` — a command line asks for files under flags; `exists_asksFor` — for any files and flags
  there is one that does.
* `AsksFor.options` — the options that it amounts to, with the flags in the order in which they are
  written.
* `Answered` — a file to which there is an answer: linting its text, if it has one, returns.
* `entriesOf` — what a file contributes under a configuration.
* `lintInputs_eq` — a run goes file by file.
* `Says`, `Json.asLines` — the object that shows an entry, and the lines for people that are made of it.
* `Shows` — what a run leaves behind, with and without JSON, shows entries.
* `ofEntries_shows` — and so does the outcome of the entries that a run comes to.
* `files_linted_apart` — the run of several files, and the runs of each alone.
-/

namespace ClosureLint

/-! ### The words of a command line -/

/-- Words that set levels and ask for JSON: the levels in the order in which they are set, and
whether JSON is asked for. -/
inductive FlagWords : List Word → List (String × Level) → Bool → Prop
  | none : FlagWords [] [] false
  | joined {ws : List Word} {flags : List (String × Level)} {json : Bool} (l : Level)
      (name : String) :
    FlagWords ws flags json →
    FlagWords (.option (.level l) (some name) :: ws) ((name, l) :: flags) json
  | apart {ws : List Word} {flags : List (String × Level)} {json : Bool} (l : Level)
      (name : String) :
    FlagWords ws flags json →
    FlagWords (.option (.level l) none :: .operand name :: ws) ((name, l) :: flags) json
  | json {ws : List Word} {flags : List (String × Level)} {json : Bool} :
    FlagWords ws flags json → FlagWords (.option .json none :: ws) flags true

/-- Words that name files, in order. A word `--` names none. -/
inductive FileWords : List Word → List String → Prop
  | none : FileWords [] []
  | file {ws : List Word} {files : List String} (file : String) :
    FileWords ws files → FileWords (.operand file :: ws) (file :: files)
  | separator {ws : List Word} {files : List String} :
    FileWords ws files → FileWords (.separator :: ws) files

variable {ws ws₁ ws₂ : List Word} {flags flags₁ flags₂ : List (String × Level)}
  {json json₁ json₂ : Bool} {args files : List String}

/-- Flags are delivered in order. They end the files, if there were some. -/
theorem FlagWords.collect (h : FlagWords ws flags json) (r : Request) (rest : List Word) :
    ∃ phase, (r.phase = .awaited → phase = .awaited) ∧
      r.collect (ws ++ rest) = { r with
        phase := phase
        levels := r.levels ++ flags
        json := r.json || json }.collect rest := by
  have hphase (r : Request) (h : r.phase = .awaited) : r.afterOption.phase = .awaited := if_pos h
  induction h generalizing r with
  | none =>
    refine ⟨r.phase, id, ?_⟩
    rw [List.append_nil, Bool.or_false]
    rfl
  | joined l name _ ih | apart l name _ ih =>
    -- the level is put behind those that were there, so the last one that is written comes last
    obtain ⟨phase, hkept, hrun⟩ := ih (r.addLevel l name)
    refine ⟨phase, fun h => hkept (hphase r h), ?_⟩
    rw [Request.addLevel, List.append_assoc] at hrun
    exact hrun
  | json _ ih =>
    obtain ⟨phase, hkept, hrun⟩ := ih { r.afterOption with json := true }
    refine ⟨phase, fun h => hkept (hphase r h), ?_⟩
    rw [Bool.or_true, ← Bool.true_or]
    exact hrun

/-- So are files, as long as no flag stood behind one. -/
theorem FileWords.collect (h : FileWords ws files) {r : Request} (hphase : r.phase ≠ .over)
    (rest : List Word) :
    ∃ phase, r.collect (ws ++ rest)
      = { r with phase := phase, sources := r.sources ++ files }.collect rest := by
  induction h generalizing r with
  | none =>
    refine ⟨r.phase, ?_⟩
    rw [List.append_nil]
    rfl
  | file file _ ih =>
    -- behind a file that was taken, the next one is taken as well
    have hadd : r.addOperand file
        = { r with phase := .taken, sources := r.sources ++ [file] } := if_neg hphase
    obtain ⟨phase, hrun⟩ := @ih (r.addOperand file) (by rw [hadd]; exact nofun)
    refine ⟨phase, ?_⟩
    rw [hadd, List.append_assoc] at hrun
    rw [List.cons_append, Request.collect, hadd]
    exact hrun
  | separator _ ih =>
    obtain ⟨phase, hrun⟩ := ih hphase
    refine ⟨phase, ?_⟩
    rw [List.cons_append, Request.collect, Request.addSeparator, if_neg hphase]
    exact hrun

/-- A command line asks for files under flags: its words name the files in one row, with flags in front
of them and behind them. -/
inductive AsksFor : List String → List (String × Level) → Bool → List String → Prop
  | intro {args : List String} {ws₁ ws ws₂ : List Word} {flags₁ flags₂ : List (String × Level)}
      {json₁ json₂ : Bool} {files : List String} :
    Word.ofList args = .ok (ws₁ ++ (ws ++ ws₂)) →
    FlagWords ws₁ flags₁ json₁ → FileWords ws files → FlagWords ws₂ flags₂ json₂ →
    AsksFor args (flags₁ ++ flags₂) (json₁ || json₂) files

/-- The configuration that flags make of the default one. -/
def configured (flags : List (String × Level)) : Config := (Config.standard.applyAll flags).1

/-- The options of a run of files under flags. -/
def optionsFor (flags : List (String × Level)) (json : Bool) (files : List String) : Options :=
  ⟨files.map FilePath.parse, configured flags, json⟩

/-- **The options that a command line amounts to**: the files, the levels that the flags set together,
and whether JSON is asked for. -/
theorem AsksFor.options (h : AsksFor args flags json files)
    (hknown : ∀ flag ∈ flags, Overrides.known allLints flag.1 = true) (hfiles : files ≠ []) :
    Options.ofList args = .ok (optionsFor flags json files) := by
  cases h with | @intro ws₁ ws ws₂ flags₁ flags₂ json₁ json₂ _ hwords h₁ h h₂ =>
  obtain ⟨phase₁, hawaited, hfront⟩ := h₁.collect {} (ws ++ ws₂)
  obtain rfl := hawaited rfl
  -- in front of the files none of them has been read, so the first one opens them
  let front : Request := { levels := [] ++ flags₁, json := false || json₁ }
  obtain ⟨phase, hmiddle⟩ := h.collect (r := front) nofun ws₂
  obtain ⟨phase₂, -, hback⟩ := h₂.collect { front with phase := phase, sources := [] ++ files } []
  have hcollect : ({} : Request).collect (ws₁ ++ (ws ++ ws₂)) = .ok
      { phase := phase₂, sources := files, levels := flags₁ ++ flags₂, json := json₁ || json₂,
        unrecognized := [] } := by
    rw [List.append_nil] at hback
    rw [hfront]
    exact hmiddle.trans hback
  have happly : Config.standard.apply (flags₁ ++ flags₂) = .ok (configured (flags₁ ++ flags₂)) := by
    have hnone := (Overrides.applied_of_known hknown).2
    exact Config.apply_ok ((Config.applyAll_run Config.standard _).1.trans hnone)
  have hempty : files.isEmpty = false := by
    rw [List.isEmpty_eq_false_iff]
    exact hfiles
  rw [Options.ofList, hwords]
  change (({} : Request).collect _ >>= fun request => Except.mapError _ request.options) = _
  rw [hcollect]
  change Except.mapError _ (Request.options _) = _
  rw [Request.options]
  simp only [hempty, happly]
  rfl

/-- The name of a level's option, in full. -/
def Level.option : Level → String
  | .allow => "--allow"
  | .warn => "--warn"
  | .deny => "--deny"

/-- The one word that sets the level of a lint. -/
def levelArgument (name : String) (l : Level) : String := l.option ++ "=" ++ name

theorem toList_levelArgument (name : String) (l : Level) :
    (levelArgument name l).toList = l.option.toList ++ '=' :: name.toList := by
  rw [levelArgument, String.toList_append, String.toList_append, List.append_assoc]
  rfl

/-- The name ends at the first equals sign, and the value may hold more of them. -/
theorem splitValue_levelArgument (name : String) (l : Level) :
    Word.splitValue (levelArgument name l).toList = (l.option, some name) := by
  have hname : (l.option.toList ++ '=' :: name.toList).takeWhile (· ≠ '=') = l.option.toList := by
    cases l <;> rfl
  have hlength : l.option.toList.length ≠ (l.option.toList ++ '=' :: name.toList).length := by
    rw [List.length_append, List.length_cons]
    omega
  have hvalue : (l.option.toList ++ '=' :: name.toList).drop (l.option.toList.length + 1)
      = name.toList := by
    cases l <;> rfl
  rw [toList_levelArgument, Word.splitValue]
  simp only [hname, if_neg hlength, hvalue, String.ofList_toList]

/-- No option has an equals sign in its name. -/
theorem named?_levelArgument (name : String) (l : Level) :
    Flag.named? (levelArgument name l) = none := by
  have hplain : ∀ p ∈ Flag.names, '=' ∉ p.1.toList := by decide
  refine List.lookup_eq_none_iff.mpr fun p hp => ?_
  have hne : levelArgument name l ≠ p.1 := by
    intro heq
    refine hplain p hp ?_
    rw [← heq, toList_levelArgument]
    exact List.mem_append_right _ List.mem_cons_self
  exact bne_iff_ne.mpr hne

theorem ofString_levelArgument (name : String) (l : Level) :
    Word.ofString (levelArgument name l) = .ok (.option (.level l) (some name)) := by
  have hlist := toList_levelArgument name l
  have hhead : (levelArgument name l).toList.head? = some '-' := by
    rw [hlist]
    cases l <;> rfl
  have hhyphen : levelArgument name l ≠ "-" := by
    intro h
    rw [h] at hlist
    cases l <;> nomatch hlist
  rw [Word.ofString, if_neg (not_not_intro hhead), named?_levelArgument]
  dsimp only
  rw [if_neg hhyphen, splitValue_levelArgument]
  cases l <;> rfl

/-- A command line for files under flags: each flag in one word, and the files behind `--`. -/
def argumentsFor (flags : List (String × Level)) (json : Bool) (files : List String) : List String :=
  flags.map (fun flag => levelArgument flag.1 flag.2)
    ++ ((if json then ["--json"] else []) ++ "--" :: files)

/-- A word that is not `--` stands for itself. -/
theorem ofList_cons {arg : String} {w : Word} (hw : Word.ofString arg = .ok w) (hne : arg ≠ "--")
    (h : Word.ofList args = .ok ws) : Word.ofList (arg :: args) = .ok (w :: ws) := by
  rw [Word.ofList, if_neg hne, hw, h]
  rfl

/-- The words for flags are flags. -/
theorem ofList_argumentsFor (flags : List (String × Level)) (json : Bool) (files : List String) :
    ∃ ws, FlagWords ws flags json ∧ Word.ofList (argumentsFor flags json files)
      = .ok (ws ++ (.separator :: files.map .operand ++ [])) := by
  have hfiles : Word.ofList ("--" :: files) = .ok (.separator :: files.map .operand ++ []) := by
    rw [Word.ofList, if_pos rfl, List.append_nil]
    rfl
  induction flags with
  | nil =>
    cases json with
    | false => exact ⟨[], .none, hfiles⟩
    | true => exact ⟨[.option .json none], .json .none, ofList_cons (by decide) (by decide) hfiles⟩
  | cons flag flags ih =>
    obtain ⟨ws, hws, hwords⟩ := ih
    have hne : levelArgument flag.1 flag.2 ≠ "--" := by
      intro h
      -- `--` is short for every long name, so it is refused
      have hrefused : (Word.ofString "--").toOption = none := by decide +kernel
      rw [← h, ofString_levelArgument] at hrefused
      nomatch hrefused
    exact ⟨_, .joined flag.2 flag.1 hws,
      ofList_cons (ofString_levelArgument flag.1 flag.2) hne hwords⟩

/-- **All files can be asked for** under all flags. -/
theorem exists_asksFor (flags : List (String × Level)) (json : Bool) (files : List String) :
    ∃ args, AsksFor args flags json files := by
  obtain ⟨ws, hws, hwords⟩ := ofList_argumentsFor flags json files
  have hfiles : FileWords (.separator :: files.map .operand) files := by
    refine .separator ?_
    clear hwords
    induction files with
    | nil => exact .none
    | cons file files ih => exact .file file ih
  have hasked := AsksFor.intro hwords hws hfiles .none
  rw [List.append_nil, Bool.or_false] at hasked
  exact ⟨_, hasked⟩

/-! ### What a file contributes -/

/-- A file that is asked for, with what reading it gives. -/
def inputOf (read : FilePath → Except ReadError (List UInt8)) (file : String) : Input :=
  ⟨FilePath.parse file, read (FilePath.parse file)⟩

/-- The entries that a file contributes. -/
def entriesOf (config : Config) (i : Input) : List Entry :=
  ((lintInput config i).toOption.getD []).map fun d => ⟨i.path.text, d⟩

/-- A file to which there is an answer. A command line ends a word at the character NUL, and linting
the text of the file, if it has one, returns. -/
structure Answered (config : Config) (read : FilePath → Except ReadError (List UInt8))
    (file : String) : Prop where
  noNul : '\x00' ∉ file.toList
  linted : ∀ source, (inputOf read file).text = .ok source →
    ∃ ds, lintSource config (some (inputOf read file).path.text) source = .ok ds

variable {config : Config} {read : FilePath → Except ReadError (List UInt8)} {file : String}

/-- What is joined by a separator holds the elements of the parts. -/
theorem mem_intercalate_iff {α : Type} {a sep : α} (h : a ≠ sep) (parts : List (List α)) :
    a ∈ [sep].intercalate parts ↔ ∃ part ∈ parts, a ∈ part := by
  induction parts with
  | nil => simp
  | cons part parts ih =>
    cases parts with
    | nil => simp
    | cons next parts =>
      rw [List.intercalate_cons_cons, List.mem_append, List.mem_append, List.mem_singleton, ih]
      simp only [h, or_false, List.mem_cons, exists_eq_or_imp]

/-- A path is written with the characters of the text it was read from, with slashes, and with the
dot of the working directory. -/
theorem mem_path_text {c : Char} (hslash : c ≠ '/') (hdot : c ≠ '.')
    (h : c ∈ (FilePath.parse file).text.toList) : c ∈ file.toList := by
  have hroot (root : PathRoot) : c ∉ root.text.toList := by
    cases root <;> simp [PathRoot.text, hslash]
  -- the names are pieces of the text between its slashes
  have hname : ∀ name ∈ (FilePath.parse file).names, c ∈ name.toList → c ∈ file.toList := by
    intro name hname hc
    have hpieces := List.mem_of_mem_filter hname
    rw [String.splitToList_of_valid] at hpieces
    obtain ⟨piece, hpiece, rfl⟩ := List.mem_map.mp hpieces
    rw [String.toList_ofList] at hc
    have hwhole : ['/'].intercalate (file.toList.splitOn '/') = file.toList :=
      List.intercalate_splitOn '/'
    rw [← hwhole, mem_intercalate_iff hslash]
    exact ⟨piece, hpiece, hc⟩
  rw [FilePath.text] at h
  split at h
  · exact absurd (List.mem_singleton.mp h) hdot
  · rw [String.toList_append, List.mem_append, String.toList_intercalate] at h
    rcases h with h | h
    · exact absurd h (hroot _)
    · obtain ⟨chars, hchars, hc⟩ := (mem_intercalate_iff hslash _).mp h
      obtain ⟨name, hmem, rfl⟩ := List.mem_map.mp hchars
      exact hname name hmem hc

theorem Answered.no_nul_in_path (h : Answered config read file) :
    (inputOf read file).path.text.contains '\x00' = false := by
  rw [String.contains_char_eq, decide_eq_false_iff_not]
  exact fun hmem => h.noNul (mem_path_text (by decide) (by decide) hmem)

/-- A file without a text contributes one error. -/
theorem lintInput_unreadable (h : Answered config read file) {reason : String}
    (htext : (inputOf read file).text = .error reason) :
    lintInput config (inputOf read file)
      = .ok [unreadable (inputOf read file).path.text reason] := by
  unfold lintInput
  simp only [h.no_nul_in_path, htext]
  rfl

/-- A file with a text contributes what linting it gives. -/
theorem lintInput_readable (h : Answered config read file) {source : String}
    (htext : (inputOf read file).text = .ok source) :
    ∃ ds, lintSource config (some (inputOf read file).path.text) source = .ok ds ∧
      lintInput config (inputOf read file) = .ok ds := by
  obtain ⟨ds, hds⟩ := h.linted source htext
  refine ⟨ds, hds, ?_⟩
  unfold lintInput
  simp only [h.no_nul_in_path, htext, hds]
  rfl

theorem entriesOf_eq {i : Input} {ds : List Diagnostic} (h : lintInput config i = .ok ds) :
    entriesOf config i = ds.map fun d => ⟨i.path.text, d⟩ := by
  rw [entriesOf, h]
  rfl

/-- There is an answer to the file, whether or not it has a text. -/
theorem Answered.lintInput_eq_ok (h : Answered config read file) :
    ∃ ds, lintInput config (inputOf read file) = .ok ds := by
  cases htext : (inputOf read file).text with
  | error reason => exact ⟨_, lintInput_unreadable h htext⟩
  | ok source =>
    obtain ⟨ds, -, hds⟩ := lintInput_readable h htext
    exact ⟨ds, hds⟩

/-! ### A run goes file by file -/

/-- **The entries of several files** are those of each, one file after the other. -/
theorem lintInputs_eq {inputs : List Input} (h : ∀ i ∈ inputs, ∃ ds, lintInput config i = .ok ds) :
    lintInputs config inputs = .ok (inputs.flatMap (entriesOf config)) := by
  have hinput : ∀ i ∈ inputs,
      (lintInput config i >>= fun ds => pure (ds.map fun d => (⟨i.path.text, d⟩ : Entry)))
        = (.ok (entriesOf config i) : Except RunFault (List Entry)) := by
    intro i hi
    obtain ⟨ds, hds⟩ := h i hi
    rw [hds, entriesOf_eq hds]
    rfl
  rw [lintInputs, mapM_congr hinput, mapM_eq_ok fun _ => rfl, List.flatMap_def]
  rfl

/-- What a file contributes to a run under flags. -/
def reported (flags : List (String × Level)) (read : FilePath → Except ReadError (List UInt8))
    (file : String) : List Entry :=
  entriesOf (configured flags) (inputOf read file)

/-- A run ends with the outcome of what its files contribute. -/
theorem run_optionsFor (h : ∀ file ∈ files, Answered (configured flags) read file) (json : Bool) :
    (optionsFor flags json files).run read
      = .ok (.ofEntries json (files.flatMap (reported flags read))) := by
  have hinputs : (files.map FilePath.parse).map (fun p => (⟨p, read p⟩ : Input))
      = files.map (inputOf read) := List.map_map
  have hall : ∀ i ∈ files.map (inputOf read), ∃ ds, lintInput (configured flags) i = .ok ds :=
    List.forall_mem_map.mpr fun file hfile => (h file hfile).lintInput_eq_ok
  rw [Options.run, optionsFor]
  simp only [hinputs, lintInputs_eq hall, List.flatMap_map]
  rfl

/-! ### What a run shows -/

namespace Json

/-- The value of a field, `null` where there is none. -/
def field (j : Json) (name : String) : Json :=
  match j with
  | .object fields => (fields.lookup name).getD .null
  | _ => .null

/-- The items of a list. -/
def items : Json → List Json
  | .list items => items
  | _ => []

/-- A text, or nothing in its place. -/
def textOr (j : Json) (other : String) : String :=
  match j with
  | .str s => s
  | .int n => toString n
  | _ => other

/-- The code in brackets, unless it is missing or empty. -/
def inBrackets (j : Json) : String :=
  match j.textOr "" with
  | "" => ""
  | code => "[" ++ code ++ "]"

/-- The lines for people, made of the object that shows a diagnostic: file, line, column, severity, code
and message, then the notes, then the suggestions. -/
def asLines (j : Json) : List String :=
  ((j.field "file").textOr "" ++ ":" ++ (j.field "line").textOr "?" ++ ":"
      ++ (j.field "column").textOr "?" ++ ": " ++ (j.field "severity").textOr ""
      ++ (j.field "code").inBrackets ++ ": " ++ (j.field "message").textOr "")
    :: ((j.field "notes").items.map (fun note => "  = note: " ++ note.textOr "")
      ++ (j.field "suggestions").items.map fun s => "  = help: " ++ (s.field "message").textOr ""
          ++ ": `" ++ (s.field "replacement").textOr "" ++ "`")

end Json

/-- The object says what the suggestion is. -/
structure Suggests (j : Json) (s : Suggestion) : Prop where
  message : j.field "message" = .str s.message
  replacement : j.field "replacement" = .str s.replacement
  line : j.field "line" = .option .int s.span.line
  column : j.field "column" = .option .int s.span.column
  endLine : j.field "end_line" = .option .int s.span.endLine
  endColumn : j.field "end_column" = .option .int s.span.endColumn
  applicability : j.field "applicability" = .str s.applicability.name

/-- The object says what the entry is: the diagnostic, and the file that it is about. -/
structure Says (j : Json) (e : Entry) : Prop where
  phase : j.field "phase" = .option .str e.diagnostic.phase
  code : j.field "code" = .option .str e.diagnostic.code
  message : j.field "message" = .str e.diagnostic.message
  severity : j.field "severity" = .str e.diagnostic.severity
  /-- Where the span names no file, it is the one that was asked for. -/
  file : j.field "file" = .str
    (if e.diagnostic.span.file.getD "" = "" then e.source else e.diagnostic.span.file.getD "")
  line : j.field "line" = .option .int e.diagnostic.span.line
  column : j.field "column" = .option .int e.diagnostic.span.column
  notes : j.field "notes" = .list (e.diagnostic.notes.map .str)
  suggestions : List.Forall₂ Suggests (j.field "suggestions").items e.diagnostic.suggestions

/-- **What a run leaves behind shows entries**, whether it is asked for JSON or not: nothing but them, all
of them, and in their order. -/
structure Shows (outcome : Bool → Outcome) (es : List Entry) : Prop where
  /-- The run ends with 1 exactly if there is an error among the entries, -/
  fails : ∀ json, (outcome json).exitCode = 1 ↔ ∃ e ∈ es, e.diagnostic.severity = "error"
  /-- and else with 0. -/
  ends : ∀ json, (outcome json).exitCode = 0 ∨ (outcome json).exitCode = 1
  /-- There is an object for each entry. With JSON the output is one object that holds them and the
  number that the run ends with, and without, the errors are the lines made of them. -/
  listed : ∃ objects, List.Forall₂ Says objects es ∧
    (outcome true).output = (Json.object
      [("exit_code", .int (outcome true).exitCode), ("diagnostics", .list objects)]).text ++ "\n" ∧
    (outcome false).errors = String.join ((objects.flatMap Json.asLines).map (· ++ "\n"))
  /-- Nothing else is written. -/
  silent : (outcome true).errors = "" ∧ (outcome false).output = ""

theorem fileOr_eq (d : Diagnostic) (source : String) :
    d.fileOr source = if d.span.file.getD "" = "" then source else d.span.file.getD "" := by
  unfold Diagnostic.fileOr
  cases d.span.file with
  | none => rfl
  | some file =>
    dsimp only [Option.getD_some]
    simp only [String.isEmpty_iff]

theorem textOr_option_int (n : Option Int) : (Json.option .int n).textOr "?" = placeText n := by
  cases n <;> rfl

theorem inBrackets_code (d : Diagnostic) : (Json.option .str d.code).inBrackets = d.codeText := by
  unfold Diagnostic.codeText
  cases d.code with
  | none => rfl
  | some code =>
    dsimp only [Json.option, Json.inBrackets, Json.textOr]
    split
    · rfl
    · next hne => rw [if_neg fun h => hne (String.isEmpty_iff.mp h)]

/-- The object of a suggestion says what it is. -/
theorem suggests_suggestionJson (s : Suggestion) : Suggests (Diagnostic.suggestionJson s) s :=
  ⟨rfl, rfl, rfl, rfl, rfl, rfl, rfl⟩

/-- The object of a diagnostic says what its entry is. -/
theorem says_toJson (e : Entry) : Says (e.diagnostic.toJson e.source) e where
  phase := rfl
  code := rfl
  message := rfl
  severity := rfl
  file := congrArg Json.str (fileOr_eq e.diagnostic e.source)
  line := rfl
  column := rfl
  notes := rfl
  suggestions := by
    change List.Forall₂ Suggests (e.diagnostic.suggestions.map Diagnostic.suggestionJson) _
    exact List.forall₂_map_left_iff.mpr (List.forall₂_same.mpr fun s _ => suggests_suggestionJson s)

/-- **The lines of a diagnostic** are made of its object. -/
theorem asLines_toJson (d : Diagnostic) (source : String) :
    (d.toJson source).asLines = d.lines source := by
  have hhead : d.headline source = d.fileOr source ++ ":" ++ (Json.option .int d.span.line).textOr "?"
      ++ ":" ++ (Json.option .int d.span.column).textOr "?" ++ ": " ++ d.severity
      ++ (Json.option .str d.code).inBrackets ++ ": " ++ d.message := by
    rw [textOr_option_int, textOr_option_int, inBrackets_code]
    rfl
  have hnotes : (d.notes.map Json.str).map (fun note => "  = note: " ++ note.textOr "")
      = d.notes.map Diagnostic.noteLine := List.map_map
  have hhelp : (d.suggestions.map Diagnostic.suggestionJson).map (fun s =>
        "  = help: " ++ (s.field "message").textOr "" ++ ": `" ++ (s.field "replacement").textOr "" ++ "`")
      = d.suggestions.map Diagnostic.helpLine := List.map_map
  rw [Diagnostic.lines, hhead, ← hnotes, ← hhelp]
  rfl

/-- A run fails exactly if it reports an error. -/
theorem exitCode_eq_one {es : List Entry} :
    exitCode es = 1 ↔ ∃ e ∈ es, e.diagnostic.severity = "error" := by
  have herrors : hasErrors (es.map Entry.diagnostic) = true ↔
      ∃ e ∈ es, e.diagnostic.severity = "error" := by
    simp only [hasErrors, List.any_map, List.any_eq_true, Function.comp_apply, Diagnostic.isError,
      beq_iff_eq]
  rw [← herrors, exitCode]
  split <;> simp [*]

/-- **The outcome of entries** shows them. -/
theorem ofEntries_shows (es : List Entry) : Shows (Outcome.ofEntries · es) es where
  fails _ := exitCode_eq_one
  ends _ := by
    change exitCode es = 0 ∨ exitCode es = 1
    unfold exitCode
    split
    · exact .inr rfl
    · exact .inl rfl
  listed := by
    refine ⟨es.map fun e => e.diagnostic.toJson e.source, ?_, ?_, ?_⟩
    · exact List.forall₂_map_left_iff.mpr (List.forall₂_same.mpr fun e _ => says_toJson e)
    · exact congrArg (fun j => Json.text j ++ "\n") (rfl : payload es = _)
    · have hlines : (es.map fun e => e.diagnostic.toJson e.source).flatMap Json.asLines
          = allLines es := by
        rw [List.flatMap_map]
        exact List.flatMap_congr fun e _ => asLines_toJson e.diagnostic e.source
      rw [hlines]
      rfl
  silent := ⟨rfl, rfl⟩

/-- The worse of two runs decides how they end together. -/
theorem exitCode_append (es es' : List Entry) :
    exitCode (es ++ es') = max (exitCode es) (exitCode es') := by
  have herrors : hasErrors ((es ++ es').map Entry.diagnostic)
      = (hasErrors (es.map Entry.diagnostic) || hasErrors (es'.map Entry.diagnostic)) := by
    rw [List.map_append, hasErrors, List.any_append, hasErrors, hasErrors]
  rw [exitCode, exitCode, exitCode, herrors]
  cases hasErrors (es.map Entry.diagnostic) <;> cases hasErrors (es'.map Entry.diagnostic) <;> rfl

/-- The worst of several runs decides how they end together. -/
theorem exitCode_flatMap (files : List String) (entries : String → List Entry) :
    exitCode (files.flatMap entries)
      = (files.map fun file => exitCode (entries file)).foldr max 0 := by
  induction files with
  | nil => rfl
  | cons file files ih =>
    rw [List.flatMap_cons, exitCode_append, ih, List.map_cons, List.foldr_cons]

/-- What is written for people about several files is what is written about each. -/
theorem errors_flatMap (files : List String) (entries : String → List Entry) :
    (Outcome.ofEntries false (files.flatMap entries)).errors
      = String.join (files.map fun file => (Outcome.ofEntries false (entries file)).errors) := by
  change String.join ((allLines (files.flatMap entries)).map (· ++ "\n"))
    = String.join (files.map fun file => String.join ((allLines (entries file)).map (· ++ "\n")))
  induction files with
  | nil => rfl
  | cons file files ih =>
    have hlines : allLines (entries file ++ files.flatMap entries)
        = allLines (entries file) ++ allLines (files.flatMap entries) := List.flatMap_append
    rw [List.flatMap_cons, hlines, List.map_append, String.join_append, ih, List.map_cons,
      String.join_cons]

/-! ### The run of several files -/

/-- The run of a command line ends with an outcome. -/
def RunsTo (read : FilePath → Except ReadError (List UInt8)) (args : List String) (o : Outcome) :
    Prop :=
  ∃ options, Options.ofList args = .ok options ∧ options.run read = .ok o

/-- Command lines that ask for files run to the outcome of what the files contribute. -/
theorem AsksFor.runsTo (h : AsksFor args flags json files)
    (hknown : ∀ flag ∈ flags, Overrides.known allLints flag.1 = true) (hfiles : files ≠ [])
    (hanswered : ∀ file ∈ files, Answered (configured flags) read file) :
    RunsTo read args (.ofEntries json (files.flatMap (reported flags read))) :=
  ⟨_, h.options hknown hfiles, run_optionsFor hanswered json⟩

/-- A run of files, which leaves `whole` behind, and the runs of each of them alone under the same flags,
which leave `single` behind. -/
structure LintedApart (flags : List (String × Level))
    (read : FilePath → Except ReadError (List UInt8)) (files : List String)
    (whole : Bool → Outcome) (single : String → Bool → Outcome) : Prop where
  /-- Whatever asks for the files runs to `whole`, -/
  together : ∀ args json, AsksFor args flags json files → RunsTo read args (whole json)
  /-- and whatever asks for one of them runs to what `single` says of it. -/
  alone : ∀ file ∈ files, ∀ args json, AsksFor args flags json [file] →
    RunsTo read args (single file json)
  /-- The run of all shows what the files contribute, one file after the other, -/
  shown : Shows whole (files.flatMap (reported flags read))
  /-- and the run of one file shows what this file contributes. -/
  shownAlone : ∀ file ∈ files, Shows (single file) (reported flags read file)
  /-- So the run of all ends like the worst of the runs of one file, -/
  worst : ∀ json, (whole json).exitCode
    = (files.map fun file => (single file json).exitCode).foldr max 0
  /-- and writes for people what these write, in order. -/
  joined : (whole false).errors = String.join (files.map fun file => (single file false).errors)
  /-- A file without a text contributes one error, -/
  unreadable : ∀ file ∈ files, ∀ reason, (inputOf read file).text = .error reason →
    ∃ d, reported flags read file = [⟨(inputOf read file).path.text, d⟩] ∧
      d.phase = some "io" ∧ d.severity = "error"
  /-- and a file with a text what linting it gives. -/
  readable : ∀ file ∈ files, ∀ source, (inputOf read file).text = .ok source →
    ∃ ds, lintSource (configured flags) (some (inputOf read file).path.text) source = .ok ds ∧
      reported flags read file = ds.map fun d => ⟨(inputOf read file).path.text, d⟩
  /-- The last flag that names a lint sets its level. -/
  levels : ∀ l, (configured flags).level l
    = (Overrides.decided allLints l.name flags).getD (Overrides.defaultOf allLints l)

/-- **Files are linted independently.** Let files be named, not none, and flags that name known lints, and
let there be an answer to each file. There are command lines that ask for these files under these flags,
and so for each file alone. The run of all reports what the runs of each report, one file after the other,
as objects and as lines for people, and ends like the worst of them. -/
theorem files_linted_apart (hknown : ∀ flag ∈ flags, Overrides.known allLints flag.1 = true)
    (hfiles : files ≠ []) (hanswered : ∀ file ∈ files, Answered (configured flags) read file) :
    (∀ json files, ∃ args, AsksFor args flags json files) ∧
    ∃ whole single, LintedApart flags read files whole single := by
  refine ⟨fun json files => exists_asksFor flags json files,
    (Outcome.ofEntries · (files.flatMap (reported flags read))),
    fun file => (Outcome.ofEntries · (reported flags read file)), ?_⟩
  constructor
  case together => exact fun args json hasked => hasked.runsTo hknown hfiles hanswered
  case alone =>
    -- it is a run like any other, of a list with one file
    intro file hfile args json hasked
    have hone : ∀ f ∈ [file], Answered (configured flags) read f :=
      List.forall_mem_singleton.mpr (hanswered file hfile)
    have hrun := hasked.runsTo hknown (List.cons_ne_nil file []) hone
    rwa [List.flatMap_singleton] at hrun
  case shown => exact ofEntries_shows _
  case shownAlone => exact fun file _ => ofEntries_shows _
  case worst => exact fun _ => exitCode_flatMap files _
  case joined => exact errors_flatMap files _
  case unreadable =>
    intro file hfile reason htext
    exact ⟨_, entriesOf_eq (lintInput_unreadable (hanswered file hfile) htext), rfl, rfl⟩
  case readable =>
    intro file hfile source htext
    obtain ⟨ds, hlint, hds⟩ := lintInput_readable (hanswered file hfile) htext
    exact ⟨ds, hlint, entriesOf_eq hds⟩
  case levels =>
    intro l
    have hlevel := Config.level_applyAll allLints flags l
    rwa [(Overrides.applied_of_known hknown).1] at hlevel

/-- A program with a redundant closure. -/
def closureText : String :=
  "fn inc(a: i32) -> i32;\nfn apply(f: fn(i32) -> i32);\nfn main() \x7b\n  apply(|x| inc(x));\n\x7d\n"

/-- The program in a file, a file that is not UTF-8, and no file anywhere else. -/
def threeContents (p : FilePath) : Except ReadError (List UInt8) :=
  if p.text = "a.rs" then .ok (closureText.toList.flatMap String.utf8EncodeChar)
  else if p.text = "b.rs" then .ok [0xfe, 0xff]
  else .error .notFound

/-- The last flag denies what the first allowed. -/
def twoFlags : List (String × Level) := [("style", .allow), ("redundant-closure", .deny)]

/-- **Two files without a text** leave the findings in the third one as they are. -/
theorem threeContents_linted_apart :
    AsksFor ["--allow=style", "b.rs", "./a.rs", "c.rs", "-D", "redundant-closure"] twoFlags false
      ["b.rs", "./a.rs", "c.rs"] ∧
    AsksFor ["-Astyle", "--", "./a.rs"] [("style", .allow)] false ["./a.rs"] ∧
    ∃ whole single,
      LintedApart twoFlags threeContents ["b.rs", "./a.rs", "c.rs"] whole single ∧
      RunsTo threeContents ["--allow=style", "b.rs", "./a.rs", "c.rs", "-D", "redundant-closure"]
        (whole false) ∧
      (whole false).exitCode = 1 ∧
      (∃ d, reported twoFlags threeContents "b.rs" = [⟨"b.rs", d⟩] ∧ d.phase = some "io") ∧
      (∃ d, reported twoFlags threeContents "./a.rs" = [⟨"a.rs", d⟩] ∧ d.phase = some "lint" ∧
        d.severity = "error") ∧
      ∃ d, reported twoFlags threeContents "c.rs" = [⟨"c.rs", d⟩] ∧ d.phase = some "io" := by
  have hfront : FlagWords [.option (.level .allow) (some "style")] [("style", .allow)] false :=
    .joined .allow "style" .none
  have hback : FlagWords [.option (.level .deny) none, .operand "redundant-closure"]
      [("redundant-closure", .deny)] false := .apart .deny "redundant-closure" .none
  have hasked : AsksFor ["--allow=style", "b.rs", "./a.rs", "c.rs", "-D", "redundant-closure"]
      twoFlags false ["b.rs", "./a.rs", "c.rs"] :=
    .intro (toOption_eq_some.mp (by decide +kernel)) hfront
      (.file "b.rs" (.file "./a.rs" (.file "c.rs" .none))) hback
  have hseparated : AsksFor ["-Astyle", "--", "./a.rs"] [("style", .allow)] false ["./a.rs"] :=
    .intro (toOption_eq_some.mp (by decide +kernel)) hfront (.separator (.file "./a.rs" .none)) .none
  -- one of the files has a text, and linting it gives one finding
  obtain ⟨ds, hds, hfound⟩ : ∃ ds,
      lintSource (configured twoFlags) (some "a.rs") closureText = .ok ds ∧
      ds.map (fun d => (d.phase, d.severity)) = [(some "lint", "error")] := by
    have hrun : (lintSource (configured twoFlags) (some "a.rs") closureText).toOption.map
        (List.map fun d => (d.phase, d.severity)) = some [(some "lint", "error")] := by
      decide +kernel
    obtain ⟨ds, hds, hfound⟩ := Option.map_eq_some_iff.mp hrun
    exact ⟨ds, toOption_eq_some.mp hds, hfound⟩
  have htext : (inputOf threeContents "./a.rs").text = .ok closureText :=
    toOption_eq_some.mp (by decide +kernel)
  -- and the others have none, for reasons of their own
  have hnone (file : String) (h : (inputOf threeContents file).text.toOption = none) :
      ∃ reason, (inputOf threeContents file).text = .error reason := by
    cases hread : (inputOf threeContents file).text with
    | error reason => exact ⟨reason, rfl⟩
    | ok source =>
      rw [hread] at h
      nomatch h
  obtain ⟨reason, hbroken⟩ := hnone "b.rs" (by decide +kernel)
  obtain ⟨reason', hmissing⟩ := hnone "c.rs" (by decide +kernel)
  have hpath : (inputOf threeContents "./a.rs").path.text = "a.rs" := by decide +kernel
  have hanswered : ∀ file ∈ ["b.rs", "./a.rs", "c.rs"],
      Answered (configured twoFlags) threeContents file := by
    refine List.forall_mem_cons.mpr ⟨⟨by decide, fun source h => ?_⟩, List.forall_mem_cons.mpr
      ⟨⟨by decide, fun source h => ?_⟩,
        List.forall_mem_singleton.mpr ⟨by decide, fun source h => ?_⟩⟩⟩
    · nomatch hbroken.symm.trans h
    · obtain rfl := Except.ok.inj (htext.symm.trans h)
      rw [hpath]
      exact ⟨ds, hds⟩
    · nomatch hmissing.symm.trans h
  have hknown : ∀ flag ∈ twoFlags, Overrides.known allLints flag.1 = true := by decide +kernel
  obtain ⟨-, whole, single, hapart⟩ := files_linted_apart hknown (List.cons_ne_nil _ _) hanswered
  have hunreadable := hapart.unreadable "b.rs" (by decide) reason hbroken
  refine ⟨hasked, hseparated, whole, single, hapart, hapart.together _ false hasked, ?fails, ?broken,
    ?found, ?missing⟩
  case fails =>
    obtain ⟨d, hd, -, herror⟩ := hunreadable
    have hreported : (⟨(inputOf threeContents "b.rs").path.text, d⟩ : Entry)
        ∈ reported twoFlags threeContents "b.rs" := by
      rw [hd]
      exact List.mem_singleton_self _
    exact (hapart.shown.fails false).mpr
      ⟨_, List.mem_flatMap.mpr ⟨"b.rs", by decide, hreported⟩, herror⟩
  case broken =>
    have hplace : (inputOf threeContents "b.rs").path.text = "b.rs" := by decide +kernel
    obtain ⟨d, hd, hphase, -⟩ := hunreadable
    rw [hplace] at hd
    exact ⟨d, hd, hphase⟩
  case found =>
    obtain ⟨ds', hds', hreported⟩ := hapart.readable "./a.rs" (by decide) closureText htext
    rw [hpath] at hds' hreported
    obtain rfl := Except.ok.inj (hds.symm.trans hds')
    obtain ⟨d, rfl, hd⟩ := List.map_eq_singleton_iff.mp hfound
    exact ⟨d, hreported, congrArg Prod.fst hd, congrArg Prod.snd hd⟩
  case missing =>
    have hplace : (inputOf threeContents "c.rs").path.text = "c.rs" := by decide +kernel
    obtain ⟨d, hd, hphase, -⟩ := hapart.unreadable "c.rs" (by decide) reason' hmissing
    rw [hplace] at hd
    exact ⟨d, hd, hphase⟩

end ClosureLint
