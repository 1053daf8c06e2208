import DocSuite.Proofs.Loads
import DocSuite.Proofs.Result
import DocSuite.Suite.Program

/-!
The order of the imports of a program. The imports that say how a module is read have to be its
first statements. Main statement: they are the first statements of a program exactly if none of them
was found behind an import from a module of the same name in a package around.
-/
namespace DocSuite

open DocSuite.Syntax

/-! ### Imports that say how a module is read -/

namespace Syntax.Stmt

/-- An import that says how the module is read. It names the module of such imports from the top. -/
def isFuture : Stmt → Bool
  | .simple _ (.importFrom (some source) _ 0) => source == futureName
  | _ => false

/-- An import from a module in a package around that has the name of the module of such imports. -/
def isFutureNamesake : Stmt → Bool
  | .simple _ (.importFrom (some source) _ (_ + 1)) => source == futureName
  | _ => false

/-- A program takes the imports of both kinds for imports that say how it is read. -/
theorem isFutureImport_eq (stmt : Stmt) :
    stmt.isFutureImport = (stmt.isFuture || stmt.isFutureNamesake) := by
  cases stmt with
  | compound => rfl
  | simple site form =>
    cases form with
    | importFrom source names level => cases source <;> cases level <;>
        simp [isFutureImport, isFuture, isFutureNamesake]
    | _ => rfl

theorem isFutureNamesake_of_isFuture {stmt : Stmt} (h : stmt.isFuture = true) :
    stmt.isFutureNamesake = false := by
  unfold isFuture at h
  split at h
  next => rfl
  next => cases h

end Syntax.Stmt

/-- Imports that say how a module is read stand behind others of their kind only. -/
def FutureFirst (statements : List Stmt) : Prop :=
  statements.Pairwise fun earlier later => later.isFuture = true → earlier.isFuture = true

instance (statements : List Stmt) : Decidable (FutureFirst statements) :=
  inferInstanceAs (Decidable (List.Pairwise _ _))

theorem futureFirst_append {front back : List Stmt} (h : ∀ stmt ∈ back, stmt.isFuture = false) :
    FutureFirst (front ++ back) ↔ FutureFirst front := by
  have hnone {earlier later : Stmt} (hl : later ∈ back) (hf : later.isFuture = true) :
      earlier.isFuture = true := by
    rw [h later hl] at hf
    cases hf
  constructor
  · intro hall
    exact (List.pairwise_append.mp hall).1
  · intro hfront
    apply List.pairwise_append.mpr
    refine ⟨hfront, ?_, ?_⟩
    · exact List.pairwise_of_forall_mem_list fun earlier _ later hl hf => hnone hl hf
    · intro earlier _ later hl hf
      exact hnone hl hf

/-- Imports say how a module is read before those that come from a namesake. -/
def AheadOfNamesakes (imports : List Stmt) : Prop :=
  imports.Pairwise fun earlier later =>
    later.isFuture = true → earlier.isFutureNamesake = false

/-! ### Statements of a program -/

namespace Program

variable (program : Program)

theorem futureFirst_futureImports :
    FutureFirst program.futureImports ↔ AheadOfNamesakes program.imports := by
  rw [FutureFirst, futureImports, List.pairwise_filter]
  apply List.Pairwise.iff
  intro earlier later
  rw [earlier.isFutureImport_eq, later.isFutureImport_eq]
  constructor
  · intro h hlater
    cases hearlier : earlier.isFutureNamesake with
    | false => rfl
    | true =>
      have hfuture := h (by simp [hearlier]) (by simp [hlater]) hlater
      rw [Stmt.isFutureNamesake_of_isFuture hfuture] at hearlier
      cases hearlier
  · intro h hearlier _ hlater
    simpa [h hlater] using hearlier

theorem not_isFuture_of_mem_otherImports {stmt : Stmt} (h : stmt ∈ program.otherImports) :
    stmt.isFuture = false := by
  have hother := (List.mem_filter.mp h).2
  rw [stmt.isFutureImport_eq] at hother
  simp_all

/-- Whatever stands between the preamble and the suite, it does not matter if it does not say how
the module is read. -/
theorem futureFirst_statementsWith {imports : List Stmt}
    (h : ∀ stmt ∈ imports, stmt.isFuture = false) :
    FutureFirst (program.statementsWith imports) ↔ AheadOfNamesakes program.imports := by
  rw [← futureFirst_futureImports, statementsWith, List.append_assoc, List.append_assoc]
  apply futureFirst_append
  intro stmt hstmt
  rcases List.mem_append.mp hstmt with hpreamble | hrest
  · simp only [preamble, List.mem_cons, List.not_mem_nil, or_false] at hpreamble
    rcases hpreamble with rfl | rfl | rfl <;> decide
  · rcases List.mem_append.mp hrest with himport | hsuite
    · exact h stmt himport
    · rw [List.mem_singleton.mp hsuite]
      rfl

end Program

/-! ### Programs with loads -/

namespace Loaded

variable {checkout : Checkout} {loaded : Loaded}

theorem imports_add {next : Loaded} {stmt : Stmt} (h : loaded.add checkout stmt = .ok next) :
    next.imports.map Prod.snd = loaded.imports.map Prod.snd ++ [stmt] := by
  rw [add_eq] at h
  obtain ⟨needed, -, rfl⟩ := exists_of_map_eq_ok h
  rw [List.map_append]
  rfl

/-- The imports stay as they are, whatever is loaded for them. -/
theorem imports_ofImports {cache : ManifestCache} {imports : List Stmt}
    (h : ofImports checkout cache imports = .ok loaded) :
    loaded.imports.map Prod.snd = imports := by
  have hfold : ∀ start : Loaded, imports.foldlM (add checkout) start = .ok loaded →
      loaded.imports.map Prod.snd = start.imports.map Prod.snd ++ imports := by
    clear h
    induction imports with
    | nil =>
      intro start hstart
      cases hstart
      rw [List.append_nil]
    | cons stmt rest ih =>
      intro start hstart
      rw [List.foldlM_cons] at hstart
      cases hadd : start.add checkout stmt with
      | error fault =>
        rw [hadd] at hstart
        cases hstart
      | ok next =>
        rw [hadd] at hstart
        rw [ih next hstart, imports_add hadd, List.append_assoc]
        rfl
  exact hfold { cache } h

theorem not_isFuture_of_mem_statements {cache : ManifestCache} {imports : List Stmt}
    (h : ofImports checkout cache imports = .ok loaded)
    (hi : ∀ stmt ∈ imports, stmt.isFuture = false) :
    ∀ stmt ∈ loaded.statements, stmt.isFuture = false := by
  intro stmt hstmt
  obtain ⟨group, hgroup, hmem⟩ := List.mem_flatMap.mp hstmt
  rcases List.mem_append.mp hmem with hload | himport
  · obtain ⟨load, -, rfl⟩ := List.mem_map.mp hload
    rfl
  · rw [List.mem_singleton.mp himport]
    apply hi
    rw [← imports_ofImports h]
    exact List.mem_map_of_mem hgroup

end Loaded

/-! ### The order of a program -/

/-- The statements of a program are its imports, each of them once and in two lists that keep their
order, with the imports of every program between the lists and the suite behind them. -/
structure Program.Assembled (program : Program) : Prop where
  statements : program.statements =
    program.futureImports ++ preamble ++ program.otherImports ++ [program.suite]
  perm : (program.futureImports ++ program.otherImports).Perm program.imports
  future : program.futureImports.Sublist program.imports
  others : program.otherImports.Sublist program.imports
  mem_future : ∀ stmt, stmt ∈ program.futureImports ↔
    stmt ∈ program.imports ∧ (stmt.isFuture = true ∨ stmt.isFutureNamesake = true)

theorem Program.assembled (program : Program) : program.Assembled where
  statements := rfl
  perm := List.filter_append_perm _ _
  future := List.filter_sublist
  others := List.filter_sublist
  mem_future stmt := by
    rw [futureImports, List.mem_filter, stmt.isFutureImport_eq, Bool.or_eq_true]

/-- The imports that say how a program is read are its first statements exactly if none of them was
found behind an import from a namesake. This is so for the program and for the module that is
generated of it, in which modules are loaded before the other imports. -/
theorem Program.futureFirst_iff (program : Program) :
    program.Assembled ∧
      (FutureFirst program.statements ↔ AheadOfNamesakes program.imports) ∧
      ∀ checkout cache loaded,
        Loaded.ofImports checkout cache program.otherImports = .ok loaded →
          loaded.imports.map Prod.snd = program.otherImports ∧
            (FutureFirst (program.statementsWith loaded.statements) ↔
              AheadOfNamesakes program.imports) := by
  have hothers : ∀ stmt ∈ program.otherImports, stmt.isFuture = false :=
    fun stmt hstmt => program.not_isFuture_of_mem_otherImports hstmt
  refine ⟨program.assembled, program.futureFirst_statementsWith hothers, ?_⟩
  intro checkout cache loaded hloaded
  constructor
  · exact Loaded.imports_ofImports hloaded
  · exact program.futureFirst_statementsWith
      (Loaded.not_isFuture_of_mem_statements hloaded hothers)

namespace MixedImports

/-- An import that says how the module is read, between others of which the first needs a load. -/
def program : Program where
  title := "Suite"
  cases := []
  imports :=
    [.simple {} (.importModules [⟨"doc_tools", none⟩]),
      .simple {} (.importFrom (some futureName) [⟨"annotations", none⟩] 0),
      .simple {} (.importFrom (some futureName) [⟨"x", none⟩] 1)]

end MixedImports

theorem futureFirst_iff_mixedImports : ∃ loaded,
    Loaded.ofImports guideCheckout {} MixedImports.program.otherImports = .ok loaded ∧
      loaded.loads.length = 1 ∧ MixedImports.program.Assembled ∧
      FutureFirst MixedImports.program.statements ∧
      FutureFirst (MixedImports.program.statementsWith loaded.statements) := by
  have hahead : AheadOfNamesakes MixedImports.program.imports := by
    unfold AheadOfNamesakes
    decide
  have hloads : (Loaded.ofImports guideCheckout {}
      MixedImports.program.otherImports).toOption.map (fun loaded => loaded.loads.length) =
        some 1 := by
    decide +kernel
  obtain ⟨loaded, hloaded, hlength⟩ := exists_of_toOption_map hloads
  obtain ⟨hassembled, hplain, hgenerated⟩ := MixedImports.program.futureFirst_iff
  obtain ⟨-, hfirst⟩ := hgenerated _ _ loaded hloaded
  exact ⟨loaded, hloaded, hlength, hassembled, hplain.mpr hahead, hfirst.mpr hahead⟩

namespace NamesakeFirst

/-- An import from a namesake, and behind it one that says how the module is read. -/
def program : Program where
  title := "Suite"
  cases := []
  imports :=
    [.simple {} (.importFrom (some futureName) [⟨"x", none⟩] 1),
      .simple {} (.importFrom (some futureName) [⟨"annotations", none⟩] 0)]

end NamesakeFirst

theorem not_futureFirst_namesakeFirst : ¬ FutureFirst NamesakeFirst.program.statements := by
  decide

end DocSuite
