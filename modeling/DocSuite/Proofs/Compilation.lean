import DocSuite.Proofs.Fences
import DocSuite.Proofs.Outcome
import DocSuite.Proofs.Print.Program

/-!
Outcomes of compilations. Main statement: the compilation of a text without a file gives a suite or
the report of a sample, unless a sample splits a character or has an expression without a text.
-/
namespace DocSuite

open DocSuite.Syntax

/-- What a compilation is documented to end with: a suite, or the report of a sample. -/
def Documented (result : Except CompileFault Compiled) : Prop :=
  Succeeds result ∨ ∃ report, result = .error (.sample (.refused report))

instance (result : Except CompileFault Compiled) : Decidable (Documented result) :=
  match result with
  | .ok compiled => isTrue (.inl ⟨compiled, rfl⟩)
  | .error (.sample (.refused report)) => isTrue (.inr ⟨report, rfl⟩)
  | .error (.sample .nullCharacter) => isFalse (by simp [Documented])
  | .error (.sample (.splitCharacter _)) => isFalse (by simp [Documented])
  | .error (.manifest _) => isFalse (by simp [Documented])
  | .error (.print _) => isFalse (by simp [Documented])

/-! ### Imports without a document -/

theorem ofModules_eq {checkout : Checkout} (h : checkout.document = none) (cache : ManifestCache)
    (loaded : List Load) (modules : List String) :
    Needed.ofModules checkout cache loaded modules = .ok { cache } := by
  have hlocation (module : String) : checkout.location? cache module = (.ok none, cache) := by
    simp [Checkout.location?, h]
  induction modules with
  | nil => rfl
  | cons module modules ih =>
    rw [Needed.ofModules, hlocation]
    split
    · exact ih
    · exact ih

/-- Without a document, imports need no loads. -/
theorem exists_ofImports {checkout : Checkout} (h : checkout.document = none)
    (cache : ManifestCache) (imports : List Stmt) :
    ∃ loaded, Loaded.ofImports checkout cache imports = .ok loaded ∧
      loaded.statements = imports := by
  suffices hfold : ∀ start : Loaded, ∃ loaded,
      imports.foldlM (Loaded.add checkout) start = .ok loaded ∧
        loaded.statements = start.statements ++ imports from hfold { cache }
  induction imports with
  | nil => exact fun start => ⟨start, rfl, (List.append_nil _).symm⟩
  | cons stmt rest ih =>
    intro start
    let next : Loaded :=
      { imports := start.imports ++ [([], stmt)], located := start.located ++ []
        cache := start.cache }
    have hadd : Loaded.add checkout start stmt = .ok next := by
      rw [Loaded.add, ofModules_eq h]
      rfl
    obtain ⟨loaded, hloaded, hs⟩ := ih next
    refine ⟨loaded, ?_, ?_⟩
    · rw [List.foldlM_cons, hadd]
      exact hloaded
    · rw [hs]
      simp [next, Loaded.statements]

/-! ### Cases -/

open Compilation

theorem casesFrom_cons (index : Nat) (checks : Checks) (sample : Sample) (samples : List Sample) :
    (casesFrom index checks (sample :: samples)).2 =
      match sample.parse (some (index : Int)) with
      | .error fault => .error (.sample fault)
      | .ok body =>
          (⟨sample.caseTitle, (checks.insert body).1, true⟩ :: ·) <$>
            (casesFrom (index + 1) (checks.insert body).2 samples).2 := by
  rw [casesFrom]
  cases sample.parse (some (index : Int)) <;> rfl

theorem succeeds_parse_index {sample : Sample} (hn : '\x00' ∉ sample.source.toList)
    (index : Option Int) : Succeeds (sample.parse index) ↔ Succeeds sample.parse :=
  ⟨fun ⟨body, h⟩ => ⟨body, Sample.parse_index hn h none⟩,
    fun ⟨body, h⟩ => ⟨body, Sample.parse_index hn h index⟩⟩

section

variable {samples : List Sample}

/-- Samples have cases exactly if each of them can be read. -/
theorem succeeds_casesFrom (hn : ∀ sample ∈ samples, '\x00' ∉ sample.source.toList) (index : Nat)
    (checks : Checks) :
    Succeeds (casesFrom index checks samples).2 ↔ ∀ sample ∈ samples, Succeeds sample.parse := by
  induction samples generalizing index checks with
  | nil => simp [casesFrom]
  | cons sample samples ih =>
    rw [List.forall_mem_cons] at hn
    rw [List.forall_mem_cons, ← succeeds_parse_index hn.1 (some (index : Int)), casesFrom_cons]
    cases sample.parse (some (index : Int)) with
    | error fault => simp
    | ok body => simp [ih hn.2]

/-- The first sample that cannot be read decides about the fault. -/
theorem casesFrom_eq_error (hn : ∀ sample ∈ samples, '\x00' ∉ sample.source.toList) {index : Nat}
    {checks : Checks} {fault : CompileFault}
    (h : (casesFrom index checks samples).2 = .error fault) :
    ∃ before sample after, samples = before ++ sample :: after ∧
      (∀ earlier ∈ before, Succeeds earlier.parse) ∧
      ∃ (index : Nat) (reason : SampleFault),
        sample.parse (some (index : Int)) = .error reason ∧ fault = .sample reason := by
  induction samples generalizing index checks with
  | nil => cases h
  | cons sample samples ih =>
    rw [List.forall_mem_cons] at hn
    rw [casesFrom_cons] at h
    cases hparse : sample.parse (some (index : Int)) with
    | error reason =>
      rw [hparse] at h
      cases h
      exact ⟨[], sample, samples, rfl, by simp, index, reason, hparse, rfl⟩
    | ok body =>
      simp only [hparse] at h
      cases hrest : (casesFrom (index + 1) (checks.insert body).2 samples).2 with
      | ok cases =>
        rw [hrest] at h
        cases h
      | error other =>
        rw [hrest] at h
        cases h
        obtain ⟨before, failed, after, hs, hbefore, hfailed⟩ := ih hn.2 hrest
        refine ⟨sample :: before, failed, after, by rw [hs]; rfl, ?_, hfailed⟩
        exact List.forall_mem_cons.mpr
          ⟨(succeeds_parse_index hn.1 _).mp ⟨body, hparse⟩, hbefore⟩

theorem casesFrom_eq_error_of_parse {before : List Sample} (sample : Sample) (after : List Sample)
    (hn : ∀ earlier ∈ before, '\x00' ∉ earlier.source.toList)
    (hbefore : ∀ earlier ∈ before, Succeeds earlier.parse) (index : Nat) (checks : Checks) :
    ∃ number : Nat, ∀ reason, sample.parse (some (number : Int)) = .error reason →
      (casesFrom index checks (before ++ sample :: after)).2 = .error (.sample reason) := by
  induction before generalizing index checks with
  | nil => exact ⟨index, fun reason h => by rw [List.nil_append, casesFrom_cons, h]⟩
  | cons first before ih =>
    rw [List.forall_mem_cons] at hn hbefore
    obtain ⟨body, hbody⟩ := (succeeds_parse_index hn.1 (some (index : Int))).mpr hbefore.1
    obtain ⟨number, hnumber⟩ := ih hn.2 hbefore.2 (index + 1) (checks.insert body).2
    refine ⟨number, fun reason h => ?_⟩
    rw [List.cons_append, casesFrom_cons, hbody]
    simp only [hnumber reason h]
    rfl

/-- A fault is a report of a sample unless that sample splits a character. -/
theorem exists_report_iff
    (hpass : ∀ sample ∈ samples, '\r' ∉ sample.source.toList ∧ '\x00' ∉ sample.source.toList)
    {index : Nat} {checks : Checks} {fault : CompileFault}
    (h : (casesFrom index checks samples).2 = .error fault) :
    (∃ report, fault = .sample (.refused report)) ↔
      ∀ before sample after, samples = before ++ sample :: after →
        (∀ earlier ∈ before, Succeeds earlier.parse) → ¬ sample.Splits := by
  have hn : ∀ sample ∈ samples, '\x00' ∉ sample.source.toList :=
    fun sample hs => (hpass sample hs).2
  constructor
  · rintro ⟨report, hreport⟩ before sample after hs hbefore hsplits
    subst hs
    obtain ⟨number, hnumber⟩ := casesFrom_eq_error_of_parse sample after
      (fun earlier he => hn earlier (List.mem_append_left _ he)) hbefore index checks
    obtain ⟨split, hparse⟩ := Sample.parse_of_splits (some (number : Int))
      (hn sample (List.mem_append_right _ List.mem_cons_self)) hsplits
    rw [hnumber _ hparse, hreport] at h
    cases h
  · intro hunsplit
    obtain ⟨before, sample, after, hs, hbefore, number, reason, hparse, hfault⟩ :=
      casesFrom_eq_error hn h
    have hm : sample ∈ samples := by simp [hs]
    rcases Sample.parse_of_not_splits (some (number : Int)) (hpass sample hm).1 (hn sample hm)
      (hunsplit before sample after hs hbefore) with ⟨body, hbody⟩ | ⟨report, hreport⟩
    · rw [hbody] at hparse
      cases hparse
    · rw [hreport, Except.error.injEq] at hparse
      exact ⟨report, by rw [hfault, hparse]⟩

/-! ### Programs of samples -/

theorem printable_insertAll (checks : Checks) {bodies : List (List Stmt)}
    (h : ∀ body ∈ bodies, Fresh (nodesOf body)) :
    (∀ out ∈ (checks.insertAll bodies).1, Printable (nodesOf out)) ↔
      ∀ body ∈ bodies, Printable (nodesOf body) := by
  induction bodies generalizing checks with
  | nil => simp [Checks.insertAll]
  | cons body rest ih =>
    rw [List.forall_mem_cons] at h
    simp [Checks.insertAll, printable_insert checks h.1, ih _ h.2]

theorem whole_of_refilled {bodies outs : List (List Stmt)} (h : List.Forall₂ Refilled bodies outs) :
    ∀ out ∈ outs, Whole (nodesOf out) := by
  induction h with
  | nil => simp
  | cons hfirst _ ih => exact List.forall_mem_cons.mpr ⟨hfirst.whole, ih⟩

/-- A sample is read alike whatever its number. -/
theorem mapM_parse {bodies : List (List Stmt)}
    (hn : ∀ sample ∈ samples, '\x00' ∉ sample.source.toList)
    (h : List.Forall₂ (fun sample body => ∃ index, Sample.parse sample index = .ok body)
      samples bodies) : samples.mapM (fun sample => sample.parse) = .ok bodies := by
  rw [mapM_eq_ok_iff]
  induction h with
  | nil => rfl
  | cons hfirst _ ih =>
    rw [List.forall_mem_cons] at hn
    obtain ⟨index, hfirst⟩ := hfirst
    rw [List.map_cons, List.map_cons, ih hn.2, Sample.parse_index hn.1 hfirst none]

/-- The program of some samples has a text exactly if their expressions have one. -/
theorem succeeds_textOf_casesFrom (hn : ∀ sample ∈ samples, '\x00' ∉ sample.source.toList)
    {checks : Checks} {cases : List Case} (h : casesFrom 0 {} samples = (checks, .ok cases))
    (title : String) :
    Succeeds (Program.textOf (Program.statements ⟨title, cases, checks.imports⟩)) ↔
      ∀ sample ∈ samples, ∀ body, sample.parse = .ok body → Printable (nodesOf body) := by
  obtain ⟨bodies, hread, hall⟩ := insertAll_of_casesFrom h
  have hbodies (body : List Stmt) : body ∈ bodies ↔ ∃ sample ∈ samples, sample.parse = .ok body :=
    mem_of_mapM_eq_ok (mapM_parse hn hread)
  have hsound : ∀ body ∈ bodies, Fresh (nodesOf body) ∧ Whole (nodesOf body) := by
    intro body hb
    obtain ⟨sample, -, hparse⟩ := (hbodies body).mp hb
    exact ⟨(Sample.parse_sound hparse).1, (Sample.parse_sound hparse).2.1⟩
  obtain ⟨himports, hrefilled⟩ := hoisted_insertAll {} (fun body hb => (hsound body hb).1)
    fun body hb => (hsound body hb).2
  have hprint := printable_insertAll {} fun body hb => (hsound body hb).1
  simp only [hall, List.nil_append] at himports hrefilled hprint
  have hwhole : ∀ case ∈ cases, Whole (nodesOf case.body) := fun case hc =>
    whole_of_refilled hrefilled case.body (List.mem_map_of_mem hc)
  have hi : ∀ stmt ∈ checks.imports, stmt.isImport = true := by
    intro stmt hs
    rw [himports, List.mem_flatMap] at hs
    obtain ⟨body, -, hs⟩ := hs
    exact (List.mem_filter.mp hs).2
  rw [Program.succeeds_textOf hi hwhole]
  constructor
  · intro hcases sample hs body hparse
    refine hprint.mp (fun out ho => ?_) body ((hbodies body).mpr ⟨sample, hs, hparse⟩)
    obtain ⟨case, hc, rfl⟩ := List.mem_map.mp ho
    exact hcases case hc
  · intro hsamples case hc
    refine hprint.mpr (fun body hb => ?_) case.body (List.mem_map_of_mem hc)
    obtain ⟨sample, hs, hparse⟩ := (hbodies body).mp hb
    exact hsamples sample hs body hparse

end

/-! ### Compilations -/

@[simp] theorem Logged.snd_andThen {ε α β : Type} (run : Logged ε α) (next : α → Logged ε β) :
    (run.andThen next).2 = run.2 >>= fun a => (next a).2 := by
  rw [Logged.andThen]
  cases run.2 <;> rfl

/-- Without a document, a program fails only if it has no text. -/
theorem exists_generate {checkout : Checkout} (h : checkout.document = none) (program : Program) :
    ∃ loaded, (generate checkout program).2 =
      (fun text => ⟨program, loaded, text⟩) <$>
        (Program.textOf program.statements).mapError .print := by
  obtain ⟨loaded, hloaded, hs⟩ := exists_ofImports h {} program.otherImports
  have hstatements : program.statementsWith loaded.statements = program.statements := by
    rw [hs, Program.statements]
  refine ⟨loaded, ?_⟩
  simp only [generate, hloaded, hstatements]
  cases Program.textOf program.statements <;> rfl

/-- A suite is generated with the loads of its imports, unless these fail, or it has no text. -/
theorem generate_cases (checkout : Checkout) (program : Program) :
    (∃ fault, Loaded.ofImports checkout {} program.otherImports = .error fault ∧
        (generate checkout program).2 = .error (.manifest fault)) ∨
      ∃ loaded, Loaded.ofImports checkout {} program.otherImports = .ok loaded ∧
        ((∃ text, (generate checkout program).2 = .ok ⟨program, loaded, text⟩) ∨
          ∃ fault, (generate checkout program).2 = .error (.print fault)) := by
  cases hloaded : Loaded.ofImports checkout {} program.otherImports with
  | error fault => exact .inl ⟨fault, rfl, by simp [generate, hloaded]⟩
  | ok loaded =>
    refine .inr ⟨loaded, rfl, ?_⟩
    cases htext : Program.textOf (program.statementsWith loaded.statements) with
    | error fault => exact .inr ⟨fault, by simp [generate, hloaded, htext]⟩
    | ok text => exact .inl ⟨text, by simp [generate, hloaded, htext]⟩

theorem ok_of_generate {checkout : Checkout} {program : Program} {compiled : Compiled}
    (h : (generate checkout program).2 = .ok compiled) :
    compiled.program = program ∧
      Loaded.ofImports checkout {} program.otherImports = .ok compiled.loaded := by
  rcases generate_cases checkout program with ⟨_, -, hg⟩ | ⟨loaded, hloaded, ⟨_, hg⟩ | ⟨_, hg⟩⟩
  · cases h.symm.trans hg
  · cases h.symm.trans hg
    exact ⟨rfl, hloaded⟩
  · cases h.symm.trans hg

/-- The fault of a compilation is that of its cases or of its text. -/
theorem snd_compile (settings : Settings) (tree : FileTree) (source : String) :
    let checked := casesFrom 0 {} (scan source settings.languages)
    (compile settings tree source).2 = checked.2 >>= fun cases =>
      (generate ⟨tree, settings.filename, settings.output⟩
        ⟨settings.title, cases, checked.1.imports⟩).2 := by
  simp only [compile, Logged.inContext, phases, Logged.timed, Logged.snd_andThen,
    Compilation.cases]
  rcases casesFrom 0 {} (scan source settings.languages) with ⟨checks, fault | cases⟩
  · rfl
  · exact bind_pure (generate _ _).2

/-- What a compilation without a document ends with: a fault of the first sample that cannot be
read, or else a suite exactly if the expressions of all samples have texts. -/
theorem compile_cases {settings : Settings} (hd : settings.filename = none) (tree : FileTree)
    (source : String) (hn : ∀ sample ∈ scan source settings.languages,
      '\x00' ∉ sample.source.toList) :
    (∃ fault, (casesFrom 0 {} (scan source settings.languages)).2 = .error fault ∧
        (compile settings tree source).2 = .error fault) ∨
      (∀ sample ∈ scan source settings.languages, Succeeds sample.parse) ∧
        (Succeeds (compile settings tree source).2 ↔
          ∀ sample ∈ scan source settings.languages, ∀ body, sample.parse = .ok body →
            Printable (nodesOf body)) ∧
        ∀ fault, (compile settings tree source).2 = .error fault →
        ∃ reason, fault = .print reason := by
  have hcompile := snd_compile settings tree source
  have hread := succeeds_casesFrom hn 0 {}
  rcases hcases : casesFrom 0 {} (scan source settings.languages) with ⟨checks, fault | cases⟩
  · rw [hcases] at hcompile
    exact .inl ⟨fault, rfl, hcompile⟩
  · right
    rw [hcases] at hcompile hread
    let checkout : Checkout := ⟨tree, settings.filename, settings.output⟩
    have hcheckout : checkout.document = none := hd
    obtain ⟨loaded, hg⟩ := exists_generate hcheckout ⟨settings.title, cases, checks.imports⟩
    have hresult := hcompile.trans hg
    have htext := succeeds_textOf_casesFrom hn hcases settings.title
    refine ⟨hread.mp ⟨cases, rfl⟩, ?_, ?_⟩
    · rw [← htext, hresult, succeeds_map]
      cases Program.textOf (Program.statements ⟨settings.title, cases, checks.imports⟩) with
      | error fault => simp [Except.mapError]
      | ok text => simp [Except.mapError]
    · intro fault hfault
      rw [hresult] at hfault
      cases htext : Program.textOf (Program.statements ⟨settings.title, cases, checks.imports⟩) with
      | error reason =>
        rw [htext] at hfault
        cases hfault
        exact ⟨reason, rfl⟩
      | ok text =>
        rw [htext] at hfault
        cases hfault

/-- A sample without code has no expressions. -/
theorem printable_of_onlyComments {sample : Sample} (hr : '\r' ∉ sample.source.toList)
    (h : OnlyComments sample.source.toList) {index : Option Int} {body : List Stmt}
    (hparse : sample.parse index = .ok body) : Printable (nodesOf body) := by
  obtain ⟨read, comments, hread, -, hattach⟩ := Sample.parse_ok hparse
  rw [parseText_of_onlyComments hr h, Except.ok.injEq] at hread
  subst hread
  obtain ⟨placed, -, rfl⟩ := attachComments_ok hattach
  simp [Sample.emptyBody, Stmt.bodyWithComments, Stmt.withComments, nodesOf, Stmt.nodes, Stmt.parts,
    Simple.parts]

section

variable {settings : Settings} (hd : settings.filename = none) (tree : FileTree) (source : String)

include hd

/-- The documented ends are missed by split characters, and by expressions without a text. -/
theorem documented_compile :
    Documented (compile settings tree source).2 ↔
      (∀ before sample after, scan source settings.languages = before ++ sample :: after →
        (∀ earlier ∈ before, Succeeds earlier.parse) → ¬ sample.Splits) ∧
      ((∀ sample ∈ scan source settings.languages, Succeeds sample.parse) →
        ∀ sample ∈ scan source settings.languages, ∀ body, sample.parse = .ok body →
          Printable (nodesOf body)) := by
  have hpass : ∀ sample ∈ scan source settings.languages,
      '\r' ∉ sample.source.toList ∧ '\x00' ∉ sample.source.toList := fun sample hs => pass_scan hs
  have hn : ∀ sample ∈ scan source settings.languages, '\x00' ∉ sample.source.toList :=
    fun sample hs => (hpass sample hs).2
  rcases compile_cases hd tree source hn with ⟨fault, hcases, hcompile⟩ | ⟨hall, hok, hprint⟩
  · have hno : ¬ ∀ sample ∈ scan source settings.languages, Succeeds sample.parse := by
      rw [← succeeds_casesFrom hn 0 {}, hcases, succeeds_error]
      exact not_false
    rw [hcompile, ← exists_report_iff hpass hcases]
    simp [Documented, hno]
  · have hdocumented : Documented (compile settings tree source).2 ↔
        Succeeds (compile settings tree source).2 := by
      refine or_iff_left ?_
      rintro ⟨report, hreport⟩
      obtain ⟨reason, hreason⟩ := hprint _ hreport
      cases hreason
    rw [hdocumented, hok]
    refine ⟨fun h => ⟨fun before sample after hs _ hsplits => ?_, fun _ => h⟩, fun h => h.2 hall⟩
    have hm : sample ∈ scan source settings.languages := by simp [hs]
    obtain ⟨fault, hparse⟩ := Sample.parse_of_splits none (hn sample hm) hsplits
    obtain ⟨body, hbody⟩ := hall sample hm
    rw [hbody] at hparse
    cases hparse

/-- Samples without code have a suite exactly if none of them splits a character. -/
theorem succeeds_compile_of_onlyComments
    (hcomments : ∀ sample ∈ scan source settings.languages, OnlyComments sample.source.toList) :
    Succeeds (compile settings tree source).2 ↔
      ∀ sample ∈ scan source settings.languages, sample.FitsPass := by
  have hpass : ∀ sample ∈ scan source settings.languages,
      '\r' ∉ sample.source.toList ∧ '\x00' ∉ sample.source.toList := fun sample hs => pass_scan hs
  have hn : ∀ sample ∈ scan source settings.languages, '\x00' ∉ sample.source.toList :=
    fun sample hs => (hpass sample hs).2
  have hfits : (∀ sample ∈ scan source settings.languages, sample.FitsPass) ↔
      ∀ sample ∈ scan source settings.languages, Succeeds sample.parse :=
    forall₂_congr fun sample hs => (Sample.succeeds_parse_of_onlyComments none (hpass sample hs).1
      (hpass sample hs).2 (hcomments sample hs)).symm
  rw [hfits]
  rcases compile_cases hd tree source hn with ⟨fault, hcases, hcompile⟩ | ⟨hall, hok, -⟩
  · rw [hcompile, ← succeeds_casesFrom hn 0 {}, hcases, succeeds_error, succeeds_error]
  · rw [hok]
    exact iff_of_true (fun sample hs body hparse => printable_of_onlyComments (hpass sample hs).1
      (hcomments sample hs) hparse) hall

end

/-- Without a document, a compilation ends as documented unless the first sample that gives no
statements splits a character, or all samples give statements and one of their expressions has no
text. If the samples have no code, there is a suite exactly if none of them splits a character. -/
theorem compile_documented_iff {settings : Settings} (hd : settings.filename = none)
    (tree : FileTree) (source : String) :
    (Documented (compile settings tree source).2 ↔
      (∀ before sample after, scan source settings.languages = before ++ sample :: after →
        (∀ earlier ∈ before, Succeeds earlier.parse) → ¬ sample.Splits) ∧
      ((∀ sample ∈ scan source settings.languages, Succeeds sample.parse) →
        ∀ sample ∈ scan source settings.languages, ∀ body, sample.parse = .ok body →
          Printable (nodesOf body))) ∧
    ((∀ sample ∈ scan source settings.languages, OnlyComments sample.source.toList) →
      (Succeeds (compile settings tree source).2 ↔
        ∀ sample ∈ scan source settings.languages, sample.FitsPass)) :=
  ⟨documented_compile hd tree source, succeeds_compile_of_onlyComments hd tree source⟩

/-- Settings without a document. -/
def plainSettings : Settings :=
  { name := none, filename := none, output := none, languages := Options.defaultLanguages
    verbose := false }

/-- The document with a sample alone. -/
def Sample.document (sample : Sample) : String :=
  "```" ++ sample.language ++ "\n" ++ sample.source ++ "```\n"

/-- The second line has seven bytes, and the fourth is the last one of a character. -/
def shortComments : Sample :=
  { title := none, language := "python+test", source := "# a\n#日本\n", line := some 1 }

theorem compile_documented_shortComments : plainSettings.filename = none ∧
    scan shortComments.document plainSettings.languages = [shortComments] ∧
    OnlyComments shortComments.source.toList ∧ shortComments.FitsPass ∧ ¬ shortComments.Splits ∧
    Succeeds (compile plainSettings ⟨default, []⟩ shortComments.document).2 := by
  have hplain : plainSettings.filename = none := rfl
  have hscan : scan shortComments.document plainSettings.languages = [shortComments] := by
    decide +kernel
  have hcomments : OnlyComments shortComments.source.toList := by decide +kernel
  have hfits : shortComments.FitsPass := by decide +kernel
  obtain ⟨hdocumented, hsuite⟩ :=
    compile_documented_iff hplain ⟨default, []⟩ shortComments.document
  rw [hscan, List.forall_mem_singleton, List.forall_mem_singleton] at hsuite
  have hok := (hsuite hcomments).mpr hfits
  obtain ⟨hunsplit, -⟩ := hdocumented.mp (.inl hok)
  exact ⟨hplain, hscan, hcomments, hfits, hunsplit [] shortComments [] hscan (by simp), hok⟩

/-- The fourth byte of the second line is the first of three. -/
def longComments : Sample :=
  { title := none, language := "python+test", source := "# a\n#é日本\n", line := some 1 }

theorem compile_not_documented_longComments : plainSettings.filename = none ∧
    scan longComments.document plainSettings.languages = [longComments] ∧
    OnlyComments longComments.source.toList ∧
    ¬ Documented (compile plainSettings ⟨default, []⟩ longComments.document).2 := by
  have hplain : plainSettings.filename = none := rfl
  have hscan : scan longComments.document plainSettings.languages = [longComments] := by
    decide +kernel
  have hcomments : OnlyComments longComments.source.toList := by decide +kernel
  have hno : ¬ longComments.FitsPass := by decide +kernel
  have hsplits : longComments.Splits :=
    ⟨parseText_of_onlyComments (by decide) hcomments, succeeds_readComments hcomments, hno⟩
  refine ⟨hplain, hscan, hcomments, fun hdocumented => ?_⟩
  obtain ⟨hunsplit, -⟩ :=
    (documented_compile hplain ⟨default, []⟩ longComments.document).mp hdocumented
  exact hunsplit [] longComments [] hscan (by simp) hsplits

end DocSuite
