import DocSuite.Proofs.Compilation
import DocSuite.Proofs.DocumentOrder
import DocSuite.Proofs.Independence
import DocSuite.Proofs.Restoration
import DocSuite.Proofs.Settled

/-!
The cases of the fences of a document. Main statement: a suite registers one case for each fence
that is asked for, in the order of the document, with the title and the checks of its sample; with
fewer languages, the samples are those of these languages.
-/
namespace DocSuite

open DocSuite.Markdown DocSuite.Syntax DocSuite.Text

/-! ### Fences and their samples -/

/-- The first word behind an opening fence is among some languages. Without a word, the language is
empty. -/
def Markdown.Fence.isAsked (languages : List String) (fence : Fence) : Bool :=
  match words fence.info with
  | word :: _ => languages.contains (String.ofList word)
  | [] => languages.contains ""

/-- The sample in a fence. -/
def Markdown.Fence.sample (labels : List (List Char)) (fence : Fence) : Sample where
  title := (fence.title? labels).map String.ofList
  language := fenceLanguage (String.ofList fence.info)
  source := String.ofList fence.content
  line := some fence.line

theorem Markdown.Fence.isAsked_eq (languages : List String) (fence : Fence) :
    fence.isAsked languages = languages.contains (fenceLanguage (String.ofList fence.info)) := by
  rw [isAsked, fenceLanguage, String.toList_ofList]
  cases words fence.info <;> rfl

/-- The outline of a document. -/
def outlineOf (source : String) : Outline := Markdown.outline (normalize source.toList)

/-- The samples are those of the fences that are asked for. -/
theorem scan_eq (source : String) (languages : List String) :
    scan source languages =
      ((fencesOf none (outlineOf source).blocks).filter (Fence.isAsked languages)).map
        (Fence.sample (outlineOf source).labels) := by
  rw [scan, ← outlineOf]
  generalize fencesOf none (outlineOf source).blocks = fences
  induction fences with
  | nil => rfl
  | cons fence rest ih =>
    rw [List.filterMap_cons, List.filter_cons, ih, fence.isAsked_eq]
    cases hasked : languages.contains (fenceLanguage (String.ofList fence.info)) with
    | true => simp only [hasked, if_true, List.map_cons, Fence.sample]
    | false => simp only [hasked, Bool.false_eq_true, if_false]

/-- With fewer languages, the samples are those of these languages. -/
theorem scan_filter (source : String) {fewer languages : List String} (h : fewer ⊆ languages) :
    scan source fewer =
      (scan source languages).filter fun sample => fewer.contains sample.language := by
  rw [scan_eq, scan_eq, List.filter_map, List.filter_filter]
  congr 1
  apply List.filter_congr
  intro fence _
  rw [Function.comp_apply, fence.isAsked_eq, fence.isAsked_eq, Fence.sample]
  cases hfewer : fewer.contains (fenceLanguage (String.ofList fence.info)) with
  | true =>
    have hmem := h (List.contains_iff_mem.mp hfewer)
    rw [List.contains_iff_mem.mpr hmem, Bool.and_true]
  | false => rw [Bool.false_and]

/-! ### Functions that are registered -/

/-- A function that is registered under a title. -/
structure RegisteredFunction where
  /-- What it is registered as. -/
  kind : String
  title : String
  isAsync : Bool
  body : List Stmt

/-- The function that a statement registers. -/
def Syntax.Stmt.registered? : Stmt → Option RegisteredFunction
  | .compound _ (.function isAsync _ _ [decorator] none) [⟨.body, body⟩] =>
      match Group.call? decorator with
      | some (kind, [title]) => (Group.text? title).map fun title => ⟨kind, title, isAsync, body⟩
      | _ => none
  | _ => none

theorem registered?_registered (kind title : String) (isAsync : Bool) (name : String)
    (body : List Stmt) :
    (registered kind title isAsync name body).registered? =
      some ⟨kind, title, isAsync, if body.isEmpty then [Stmt.pass] else body⟩ := by
  simp [registered, Stmt.registered?]

theorem Case.registered?_statement {case : Case} (h : case.body ≠ []) :
    case.statement.registered? = some ⟨"it", case.title, case.isAsync, case.body⟩ := by
  rw [statement, registered?_registered, if_neg (by simpa using h)]

theorem Program.registered?_suite (program : Program) :
    program.suite.registered? = some ⟨"describe", program.title, false,
      if program.cases.isEmpty then [Stmt.pass] else program.cases.map Case.statement⟩ := by
  rw [suite, registered?_registered, List.isEmpty_map]

theorem Program.getLast?_statements (program : Program) :
    program.statements.getLast? = some program.suite := by
  rw [statements, statementsWith]
  exact List.getLast?_concat

/-! ### Cases of samples -/

namespace Compilation

/-- The program of a document. -/
def program (settings : Settings) (source : String) : Except CompileFault Program :=
  let checked := casesFrom 0 {} (scan source settings.languages)
  (fun cases => ⟨settings.title, cases, checked.1.imports⟩) <$> checked.2

/-- The suite of a compilation is that of the program of its document. -/
theorem program_of_compile {settings : Settings} {tree : FileTree} {source : String}
    {compiled : Compiled} (h : (compile settings tree source).2 = .ok compiled) :
    program settings source = .ok compiled.program := by
  have hcompile := snd_compile settings tree source
  rw [h] at hcompile
  rw [program]
  rcases hcases : casesFrom 0 {} (scan source settings.languages) with ⟨checks, fault | cases⟩
  · rw [hcases] at hcompile
    cases hcompile
  · rw [hcases] at hcompile
    rw [(ok_of_generate hcompile.symm).1]
    rfl

/-- The cases of samples have their titles, and bodies of coroutines. -/
theorem cases_of_casesFrom {index : Nat} {checks checks' : Checks} {samples : List Sample}
    {cases : List Case} (h : casesFrom index checks samples = (checks', .ok cases)) :
    cases = List.zipWith (fun sample body => ⟨sample.caseTitle, body, true⟩) samples
      (cases.map Case.body) := by
  induction samples generalizing index checks cases with
  | nil =>
    cases h
    rfl
  | cons sample samples ih =>
    obtain ⟨body, rest, -, hrest, rfl⟩ := casesFrom_cons_ok h
    rw [List.map_cons, List.zipWith_cons_cons, ← ih hrest]

end Compilation

/-! ### The cases of a document -/

/-- The nodes are the fences of a document that are asked for, each once and in their order. -/
structure AskedInOrder (source : String) (languages : List String) (nodes : List FenceNode) :
    Prop where
  ordered : nodes.Pairwise fun a b => a.address < b.address
  complete : ∀ address fence, ⟨address, fence⟩ ∈ nodes ↔
    fenceAt? none (outlineOf source).blocks address = some fence ∧ fence.isAsked languages = true

theorem exists_askedInOrder (source : String) (languages : List String) :
    ∃ nodes, AskedInOrder source languages nodes ∧
      scan source languages =
        nodes.map fun node => node.fence.sample (outlineOf source).labels := by
  refine ⟨(nodesFrom none 0 (outlineOf source).blocks).filter fun node =>
    node.fence.isAsked languages, ⟨?_, ?_⟩, ?_⟩
  · exact (ascending_nodesFrom (outlineOf source).blocks none 0).ordered.filter _
  · intro address fence
    rw [List.mem_filter, mem_nodes]
  · rw [scan_eq, ← map_fence_nodesFrom _ none 0, List.filter_map, List.map_map]
    rfl

/-- The suite of a program is its last statement and registers one case for each of some samples, in
their order, with the title of the sample and the checks of what it is read as. -/
structure Registers (program : Program) (title : String) (samples : List Sample)
    (bodies : List (List Stmt)) : Prop where
  last : program.statements.getLast? = some program.suite
  read : samples.mapM (fun sample => sample.parse) = .ok bodies
  empty : samples = [] →
    program.suite.registered? = some ⟨"describe", title, false, [Stmt.pass]⟩
  cases : samples ≠ [] → ∃ stmts,
    program.suite.registered? = some ⟨"describe", title, false, stmts⟩ ∧
      stmts.length = samples.length ∧
      stmts.map Stmt.registered? = List.zipWith (fun sample out =>
        some ⟨"it", sample.caseTitle, true, out⟩) samples (Checks.insertAll {} bodies).1

theorem registers_of_casesFrom {samples : List Sample} {checks : Checks} {cases : List Case}
    (hn : ∀ sample ∈ samples, '\x00' ∉ sample.source.toList)
    (h : Compilation.casesFrom 0 {} samples = (checks, .ok cases)) (title : String) :
    ∃ bodies, Registers ⟨title, cases, checks.imports⟩ title samples bodies := by
  obtain ⟨bodies, hread, hall⟩ := insertAll_of_casesFrom h
  have hcases := Compilation.cases_of_casesFrom h
  have hbodies : cases.map Case.body = (Checks.insertAll {} bodies).1 := by rw [hall]
  have hlength : cases.length = samples.length := by
    rw [hread.length_eq, ← Checks.length_insertAll {} bodies, ← hbodies, List.length_map]
  have hsuite := Program.registered?_suite ⟨title, cases, checks.imports⟩
  refine ⟨bodies, Program.getLast?_statements _, mapM_parse hn hread, ?_, ?_⟩
  · intro hempty
    have hnone : cases = [] := by
      rw [← List.length_eq_zero_iff, hlength, hempty]
      rfl
    rw [hsuite, hnone]
    rfl
  · intro hne
    have hsome : cases.isEmpty = false := by
      rw [List.isEmpty_eq_false_iff, ← List.length_pos_iff, hlength]
      exact List.length_pos_iff.mpr hne
    refine ⟨cases.map Case.statement, ?_, ?_, ?_⟩
    · rw [hsuite, hsome]
      rfl
    · rw [List.length_map, hlength]
    · have hregistered : (cases.map Case.statement).map Stmt.registered? =
          cases.map fun case => some ⟨"it", case.title, case.isAsync, case.body⟩ := by
        rw [List.map_map]
        apply List.map_congr_left
        intro case hcase
        apply Case.registered?_statement
        have hout : case.body ∈ (Checks.insertAll {} bodies).1 := by
          rw [← hbodies]
          exact List.mem_map_of_mem hcase
        obtain ⟨earlier, body, -, hbody⟩ := exists_of_mem_insertAll hout
        rw [hbody]
        exact earlier.insert_fst_ne_nil body
      rw [hregistered, hcases, List.map_zipWith, hbodies]

/-- If all samples of a document can be read, its suite registers one case for each fence that is
asked for, in the order of the document. With fewer languages, a document has the samples of these
languages among those that it has with more. -/
theorem program_registers (source : String) :
    (∀ settings : Settings, (∀ sample ∈ scan source settings.languages, Succeeds sample.parse) →
      ∃ nodes program bodies, AskedInOrder source settings.languages nodes ∧
        scan source settings.languages =
          (nodes.map fun node => node.fence.sample (outlineOf source).labels) ∧
        Compilation.program settings source = .ok program ∧
        (∀ tree compiled, (compile settings tree source).2 = .ok compiled →
          compiled.program = program) ∧
        Registers program settings.title (scan source settings.languages) bodies) ∧
    ∀ languages fewer, fewer ⊆ languages →
      scan source fewer =
        (scan source languages).filter fun sample => fewer.contains sample.language := by
  constructor
  · intro settings hread
    have hn : ∀ sample ∈ scan source settings.languages, '\x00' ∉ sample.source.toList :=
      fun sample hs => (pass_scan hs).2
    obtain ⟨nodes, hasked, hsamples⟩ := exists_askedInOrder source settings.languages
    obtain ⟨cases, hcases⟩ := (succeeds_casesFrom hn 0 {}).mpr hread
    obtain ⟨checks, hchecked⟩ : ∃ checks,
        Compilation.casesFrom 0 {} (scan source settings.languages) = (checks, .ok cases) :=
      ⟨_, Prod.ext rfl hcases⟩
    obtain ⟨bodies, hregisters⟩ := registers_of_casesFrom hn hchecked settings.title
    have hprogram : Compilation.program settings source =
        .ok ⟨settings.title, cases, checks.imports⟩ := by
      rw [Compilation.program, hchecked]
      rfl
    refine ⟨nodes, _, bodies, hasked, hsamples, hprogram, ?_, hregisters⟩
    intro tree compiled hcompiled
    have hsame := Compilation.program_of_compile hcompiled
    rw [hprogram, Except.ok.injEq] at hsame
    exact hsame.symm
  · intro languages fewer hfewer
    exact scan_filter source hfewer

/-- A document with a fence in a list in a quote, and with one in another language. -/
def nestedDocument : String :=
  "Adds:\n\n```python+test\n1 + 1  # => 2\n```\n\n> - Quoted\n>\n>   ```py+test\n>   import os\n" ++
    ">   ```\n\n```text\nno sample\n```\n"

theorem program_registers_nestedDocument :
    (∃ nodes program bodies,
      AskedInOrder nestedDocument plainSettings.languages nodes ∧ nodes.length = 2 ∧
        Compilation.program plainSettings nestedDocument = .ok program ∧
        Registers program plainSettings.title (scan nestedDocument plainSettings.languages)
          bodies) ∧
    scan nestedDocument ["py+test"] =
      (scan nestedDocument plainSettings.languages).filter fun sample =>
        ["py+test"].contains sample.language := by
  have hread : ∀ sample ∈ scan nestedDocument plainSettings.languages, Succeeds sample.parse := by
    decide +kernel
  have hlength : (scan nestedDocument plainSettings.languages).length = 2 := by
    decide +kernel
  have hfewer : ["py+test"] ⊆ plainSettings.languages := by
    decide
  obtain ⟨hregisters, hfilter⟩ := program_registers nestedDocument
  obtain ⟨nodes, program, bodies, hasked, hsamples, hprogram, -, hcases⟩ :=
    hregisters plainSettings hread
  rw [hsamples, List.length_map] at hlength
  exact ⟨⟨nodes, program, bodies, hasked, hlength, hprogram, hcases⟩, hfilter _ _ hfewer⟩

end DocSuite
