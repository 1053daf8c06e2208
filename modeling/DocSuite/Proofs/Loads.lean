import DocSuite.Proofs.Forest
import DocSuite.Proofs.Location

/-!
Loads of the package around a document. Main statement: the modules of the package that are
imported, and no others, are loaded before they are imported, but for the package itself where the
way to its directory reads like its name.
-/
namespace DocSuite

open DocSuite.Syntax

/-! ### Modules of a package -/

namespace Manifest

/-- The module is the package or lies below it. -/
def Owns (manifest : Manifest) (module : String) : Prop :=
  module = manifest.importName ∨ manifest.importName.toList ++ ['.'] <+: module.toList

/-- The way from a directory to that of the package reads like the name of the package. -/
def IsMistakenFrom (manifest : Manifest) (start : Path) : Prop :=
  (Path.relative manifest.directory start).text = manifest.importName

variable {manifest : Manifest}

theorem not_owns_future : ¬ manifest.Owns futureName := by
  rintro (heq | hprefix)
  · exact manifest.importName_start "future__".toList (heq ▸ rfl)
  · have hdot : '.' ∈ futureName.toList :=
      hprefix.subset (List.mem_append_right _ (List.mem_singleton_self _))
    revert hdot
    decide

end Manifest

namespace Syntax.Stmt

/-- The modules that a statement imports by their names from the top. -/
def absoluteModules : Stmt → List String
  | .simple _ (.importModules names) => names.map Alias.name
  | .simple _ (.importFrom (some source) _ 0) => [source]
  | _ => []

theorem importedModules_eq (stmt : Stmt) :
    stmt.importedModules = stmt.absoluteModules ∨
      (stmt.importedModules = [] ∧ stmt.absoluteModules = [futureName]) := by
  unfold importedModules
  split
  next => exact .inl rfl
  next site source names =>
    by_cases hfuture : source = futureName
    · exact .inr ⟨if_pos hfuture, by rw [hfuture]; rfl⟩
    · exact .inl (if_neg hfuture)
  next hmodules hfrom =>
    unfold absoluteModules
    split
    next => exact absurd rfl (hmodules _ _)
    next => exact absurd rfl (hfrom _ _ _)
    next => exact .inl rfl

theorem mem_importedModules_iff {manifest : Manifest} {module : String} (h : manifest.Owns module)
    (stmt : Stmt) : module ∈ stmt.importedModules ↔ module ∈ stmt.absoluteModules := by
  rcases stmt.importedModules_eq with heq | ⟨hnone, hfuture⟩
  · rw [heq]
  · have hne : module ≠ futureName := by
      rintro rfl
      exact Manifest.not_owns_future h
    simp [hnone, hfuture, hne]

end Syntax.Stmt

/-! ### Loads for modules -/

namespace Checkout

/-- The load of a module of a package, told from a directory. -/
structure LoadOf (manifest : Manifest) (start : Path) (load : Load) : Prop where
  located : locationIn? manifest start load.module = some load.location
  apart : load.location ≠ load.module

variable {manifest : Manifest} {start : Path}

theorem LoadOf.unique {load other : Load} (h : LoadOf manifest start load)
    (ho : LoadOf manifest start other) (hm : load.module = other.module) : load = other := by
  obtain ⟨module, location⟩ := load
  obtain ⟨_, otherLocation⟩ := other
  obtain rfl : module = _ := hm
  obtain rfl : location = otherLocation := Option.some.inj (h.located.symm.trans ho.located)
  rfl

/-- Below a package, locations never read like modules: one has a slash where the other has the
dot behind the package. -/
theorem location_ne_module {package module below base : String}
    (h : modulesBelow? package module = some below) : base ++ "/" ++ below ≠ module := by
  rw [modulesBelow?] at h
  split at h
  next hprefix =>
    rw [List.isPrefixOf_iff_prefix] at hprefix
    obtain ⟨rest, hrest⟩ := hprefix
    have hbelow : below.toList = rest.map fun c => if c = '.' then '/' else c := by
      rw [← Option.some.inj h, String.toList_ofList, ← hrest, List.drop_left]
    intro heq
    have hchars : (base.toList ++ ['/']) ++ below.toList = (package.toList ++ ['.']) ++ rest := by
      rw [hrest, ← heq, String.toList_append, String.toList_append]
      rfl
    have hlength : below.toList.length = rest.length := by rw [hbelow, List.length_map]
    have hmark := (List.append_inj' hchars hlength).1
    have hslash := (List.append_inj' hmark rfl).2
    exact absurd hslash (by decide)
  next => cases h

theorem exists_loadOf_iff {module : String} :
    (∃ location, LoadOf manifest start ⟨module, location⟩) ↔
      manifest.Owns module ∧ ¬ (module = manifest.importName ∧ manifest.IsMistakenFrom start) := by
  by_cases hpackage : module = manifest.importName
  · subst hpackage
    have hlocation : locationIn? manifest start manifest.importName =
        some (Path.relative manifest.directory start).text := by simp [locationIn?]
    constructor
    · rintro ⟨location, hlocated, hapart⟩
      refine ⟨.inl rfl, fun hmistaken => hapart ?_⟩
      rw [hlocation] at hlocated
      exact (Option.some.inj hlocated).symm.trans hmistaken.2
    · rintro ⟨-, hmistaken⟩
      exact ⟨_, hlocation, fun heq => hmistaken ⟨rfl, heq⟩⟩
  · have howns : manifest.Owns module ↔
        (modulesBelow? manifest.importName module).isSome = true := by
      simp [Manifest.Owns, hpackage, modulesBelow?]
    have hlocation : locationIn? manifest start module =
        (modulesBelow? manifest.importName module).map fun below =>
          (Path.relative manifest.directory start).text ++ "/" ++ below := by
      simp [locationIn?, hpackage]
    constructor
    · rintro ⟨location, hlocated, -⟩
      refine ⟨howns.mpr ?_, fun hmistaken => hpackage hmistaken.1⟩
      rw [hlocation] at hlocated
      obtain ⟨below, hbelow, -⟩ := Option.map_eq_some_iff.mp hlocated
      rw [hbelow]
      rfl
    · rintro ⟨hbelow, -⟩
      obtain ⟨below, hbelow⟩ := Option.isSome_iff_exists.mp (howns.mp hbelow)
      exact ⟨_, by rw [hlocation, hbelow, Option.map_some], location_ne_module hbelow⟩

end Checkout

open Checkout

/-- The loads that some modules need, behind those that there are. -/
structure LoadsFor (manifest : Manifest) (start : Path) (loaded : List Load)
    (modules : List String) (loads : List Load) : Prop where
  sound : ∀ load ∈ loads, LoadOf manifest start load ∧ load.module ∈ modules
  complete : ∀ load, LoadOf manifest start load → load.module ∈ modules → load ∈ loaded ++ loads

namespace LoadsFor

variable {manifest : Manifest} {start : Path} {loaded loads : List Load} {modules : List String}

theorem skip (h : LoadsFor manifest start loaded modules loads) {module : String}
    (hm : ∀ load, LoadOf manifest start load → load.module = module → load ∈ loaded) :
    LoadsFor manifest start loaded (module :: modules) loads where
  sound load hload := (h.sound load hload).imp_right (List.mem_cons_of_mem _)
  complete load hload hmodule := by
    rcases List.mem_cons.mp hmodule with heq | hrest
    · exact List.mem_append_left _ (hm load hload heq)
    · exact h.complete load hload hrest

theorem cons {load : Load} (hnew : LoadOf manifest start load)
    (h : LoadsFor manifest start (load :: loaded) modules loads) :
    LoadsFor manifest start loaded (load.module :: modules) (load :: loads) where
  sound other hother := by
    rcases List.mem_cons.mp hother with rfl | hrest
    · exact ⟨hnew, List.mem_cons_self⟩
    · exact (h.sound other hrest).imp_right (List.mem_cons_of_mem _)
  complete other hother hmodule := by
    rcases List.mem_cons.mp hmodule with heq | hrest
    · rw [hother.unique hnew heq]
      exact List.mem_append_right _ List.mem_cons_self
    · have hmem := h.complete other hother hrest
      simp only [List.mem_append, List.mem_cons] at hmem ⊢
      rwa [or_left_comm, ← or_assoc]

end LoadsFor

/-! ### Loads for the modules of an import -/

namespace Needed

variable {checkout : Checkout} {cache after : ManifestCache} {loaded : List Load} {module : String}
  (modules : List String)

theorem ofModules_of_loaded (h : loaded.any (fun load => load.module == module) = true) :
    ofModules checkout cache loaded (module :: modules) =
      ofModules checkout cache loaded modules := by
  rw [ofModules, if_pos h]

section

variable (h : loaded.any (fun load => load.module == module) = false)

include h

theorem ofModules_of_none (hl : checkout.location? cache module = (.ok none, after)) :
    ofModules checkout cache loaded (module :: modules) =
      ofModules checkout after loaded modules := by
  rw [ofModules, h, hl]
  rfl

theorem ofModules_of_same (hl : checkout.location? cache module = (.ok (some module), after)) :
    ofModules checkout cache loaded (module :: modules) =
      (fun rest => { rest with located := ⟨module, module⟩ :: rest.located }) <$>
        ofModules checkout after loaded modules := by
  rw [ofModules, h, hl, map_eq_pure_bind]
  exact if_pos rfl

theorem ofModules_of_location {location : String} (hne : location ≠ module)
    (hl : checkout.location? cache module = (.ok (some location), after)) :
    ofModules checkout cache loaded (module :: modules) =
      (fun rest => { rest with
        loads := ⟨module, location⟩ :: rest.loads
        located := ⟨module, location⟩ :: rest.located }) <$>
        ofModules checkout after (⟨module, location⟩ :: loaded) modules := by
  rw [ofModules, h, hl, map_eq_pure_bind]
  exact if_neg hne

end

end Needed

section

variable {checkout : Checkout} {document : String} {manifest : Manifest} {start : Path}
  (hd : checkout.document = some document)
  (hm : Manifest.nearest? checkout.tree (checkout.directoryOf document) = .ok (some manifest))
  (hs : checkout.directoryOf (checkout.anchorOr document) = start)

include hd hm hs

theorem exists_ofModules {cache : ManifestCache} (hc : cache.Agrees checkout.tree)
    {loaded : List Load} (hl : ∀ load ∈ loaded, LoadOf manifest start load)
    (modules : List String) :
    ∃ needed, Needed.ofModules checkout cache loaded modules = .ok needed ∧
      needed.cache.Agrees checkout.tree ∧
      LoadsFor manifest start loaded modules needed.loads := by
  induction modules generalizing cache loaded with
  | nil => exact ⟨_, rfl, hc, by simp, by simp⟩
  | cons module modules ih =>
    obtain ⟨hlookup, hagrees⟩ := hc.lookup (checkout.directoryOf document)
    have hlocation := location?_of_lookup hd (hlookup.trans hm) module
    rw [hs] at hlocation
    -- The module is loaded before, of another package, taken for one of another, or to be loaded.
    cases hseen : loaded.any fun load => load.module == module with
    | true =>
      obtain ⟨needed, hneeded, hagrees, hserve⟩ := ih hc hl
      refine ⟨needed, by rw [Needed.ofModules_of_loaded modules hseen, hneeded], hagrees,
        hserve.skip fun load hload heq => ?_⟩
      obtain ⟨other, hother, hsame⟩ := List.any_eq_true.mp hseen
      rwa [hload.unique (hl other hother) (heq.trans (eq_of_beq hsame).symm)]
    | false =>
      cases hfound : locationIn? manifest start module with
      | none =>
        rw [hfound] at hlocation
        obtain ⟨needed, hneeded, hagrees, hserve⟩ := ih hagrees hl
        refine ⟨needed, by rw [Needed.ofModules_of_none modules hseen hlocation, hneeded], hagrees,
          hserve.skip fun load hload heq => ?_⟩
        rw [← heq, hload.located] at hfound
        cases hfound
      | some location =>
        rw [hfound] at hlocation
        by_cases hname : location = module
        · subst hname
          have hresult := Needed.ofModules_of_same modules hseen hlocation
          obtain ⟨needed, hneeded, hagrees, hserve⟩ := ih hagrees hl
          rw [hneeded] at hresult
          refine ⟨_, hresult, hagrees, hserve.skip fun load hload heq => ?_⟩
          rw [← heq, hload.located] at hfound
          exact absurd (Option.some.inj hfound) hload.apart
        · have hnew : LoadOf manifest start ⟨module, location⟩ := ⟨hfound, hname⟩
          have hresult := Needed.ofModules_of_location modules hseen hname hlocation
          obtain ⟨needed, hneeded, hagrees, hserve⟩ :=
            ih hagrees (List.forall_mem_cons.mpr ⟨hnew, hl⟩)
          rw [hneeded] at hresult
          exact ⟨_, hresult, hagrees, hserve.cons hnew⟩

end

/-! ### Statements in order -/

/-- Every statement stands behind those that it needs. -/
def Ordered (needs : Stmt → Stmt → Prop) (statements : List Stmt) : Prop :=
  ∀ front stmt back, statements = front ++ stmt :: back → ∀ other, needs stmt other → other ∈ front

namespace Ordered

variable {needs : Stmt → Stmt → Prop} {statements : List Stmt}

theorem nil : Ordered needs [] := by
  intro front stmt back h
  simp at h

theorem concat (h : Ordered needs statements) {last : Stmt}
    (hlast : ∀ other, needs last other → other ∈ statements) :
    Ordered needs (statements ++ [last]) := by
  intro front stmt back hsplit other hother
  rcases List.eq_nil_or_concat back with rfl | ⟨between, final, rfl⟩
  · obtain ⟨rfl, hstmt⟩ := List.append_inj' hsplit rfl
    rw [← List.singleton_inj.mp hstmt] at hother
    exact hlast other hother
  · have hbefore : statements ++ [last] = (front ++ stmt :: between) ++ [final] := by
      rw [hsplit, List.concat_eq_append, List.append_assoc, List.cons_append]
    exact h front stmt between (List.append_inj' hbefore rfl).1 other hother

theorem append (h : Ordered needs statements) {others : List Stmt}
    (hothers : ∀ stmt ∈ others, ∀ other, ¬ needs stmt other) :
    Ordered needs (statements ++ others) := by
  induction others generalizing statements with
  | nil => rwa [List.append_nil]
  | cons first others ih =>
    rw [List.forall_mem_cons] at hothers
    rw [List.append_cons]
    exact ih (h.concat fun other hother => absurd hother (hothers.1 other)) hothers.2

end Ordered

/-! ### Loads for imports -/

theorem textExpr_injective {a b : String} (h : Check.textExpr a = Check.textExpr b) : a = b := by
  simp only [Check.textExpr, Check.made, Literal.ofString, Expr.mk.injEq, Form.literal.injEq,
    Literal.text.injEq, true_and, and_true] at h
  have hchars := (List.map_inj_right fun c d hcd => Char.toNat_inj.mp hcd).mp h
  exact String.toList_inj.mp hchars

theorem Load.statement_injective {load other : Load} (h : load.statement = other.statement) :
    load = other := by
  obtain ⟨module, location⟩ := load
  obtain ⟨otherModule, otherLocation⟩ := other
  simp only [Load.statement, Check.load, Check.supportCall, Check.made, Stmt.simple.injEq,
    Simple.expr.injEq, Expr.mk.injEq, Form.call.injEq, List.cons.injEq, true_and, and_true] at h
  rw [textExpr_injective h.1, textExpr_injective h.2]

/-- The statement imports a module of the package that the other one loads. -/
def Syntax.Stmt.Needs (manifest : Manifest) (start : Path) (stmt other : Stmt) : Prop :=
  ∃ load, LoadOf manifest start load ∧ load.module ∈ stmt.importedModules ∧ other = load.statement

namespace Loaded

/-- An import is added with what its modules need. -/
theorem add_eq (checkout : Checkout) (loaded : Loaded) (stmt : Stmt) :
    loaded.add checkout stmt =
      (fun needed => { imports := loaded.imports ++ [(needed.loads, stmt)]
                       located := loaded.located ++ needed.located
                       cache := needed.cache : Loaded }) <$>
        Needed.ofModules checkout loaded.cache loaded.loads stmt.importedModules := by
  rw [add, map_eq_pure_bind]

theorem mem_statements {loaded : Loaded} {stmt : Stmt} :
    stmt ∈ loaded.statements ↔
      ∃ group ∈ loaded.imports, (∃ load ∈ group.1, load.statement = stmt) ∨ stmt = group.2 := by
  simp [statements]

/-- The imports stand in order behind the loads that they need, and there are no other loads. -/
structure Serves (manifest : Manifest) (start : Path) (imports : List Stmt) (loaded : Loaded) :
    Prop where
  imports : loaded.imports.map Prod.snd = imports
  sound : ∀ group ∈ loaded.imports, ∀ load ∈ group.1,
    LoadOf manifest start load ∧ load.module ∈ group.2.importedModules
  ordered : Ordered (Stmt.Needs manifest start) loaded.statements

variable {checkout : Checkout} {document : String} {manifest : Manifest} {start : Path}

theorem Serves.loads {imports : List Stmt} {loaded : Loaded}
    (h : loaded.Serves manifest start imports) :
    ∀ load ∈ loaded.loads, LoadOf manifest start load ∧ load.statement ∈ loaded.statements := by
  intro load hload
  obtain ⟨group, hgroup, hmem⟩ := List.mem_flatMap.mp hload
  refine ⟨(h.sound group hgroup load hmem).1, mem_statements.mpr ⟨group, hgroup, ?_⟩⟩
  exact .inl ⟨load, hmem, rfl⟩

/-- All loads among the statements are loads for imports. -/
theorem Serves.of_mem {imports : List Stmt} {loaded : Loaded}
    (h : loaded.Serves manifest start imports) (hi : ∀ stmt ∈ imports, stmt.isImport = true)
    (load : Load) (hload : load.statement ∈ loaded.statements) :
    LoadOf manifest start load ∧
      ∃ stmt ∈ loaded.statements, load.module ∈ stmt.importedModules := by
  obtain ⟨group, hgroup, ⟨other, hother, heq⟩ | heq⟩ := mem_statements.mp hload
  · obtain rfl := Load.statement_injective heq
    obtain ⟨hof, hmodule⟩ := h.sound group hgroup other hother
    exact ⟨hof, group.2, mem_statements.mpr ⟨group, hgroup, .inr rfl⟩, hmodule⟩
  · have himport := hi group.2 (h.imports ▸ List.mem_map_of_mem hgroup)
    rw [← heq] at himport
    cases himport

theorem Serves.concat {imports : List Stmt} {loaded : Loaded}
    (h : loaded.Serves manifest start imports) {stmt : Stmt} {loads : List Load}
    (hs : LoadsFor manifest start loaded.loads stmt.importedModules loads)
    (located : List Load) (cache : ManifestCache) :
    Serves manifest start (imports ++ [stmt])
      { imports := loaded.imports ++ [(loads, stmt)], located, cache } where
  imports := by rw [List.map_append, h.imports, List.map_singleton]
  sound := by
    intro group hgroup
    rcases List.mem_append.mp hgroup with hbefore | hlast
    · exact h.sound group hbefore
    · rw [List.mem_singleton.mp hlast]
      exact hs.sound
  ordered := by
    have hstatements : statements { imports := loaded.imports ++ [(loads, stmt)], located, cache } =
        (loaded.statements ++ loads.map Load.statement) ++ [stmt] := by
      simp [statements]
    rw [hstatements]
    refine (h.ordered.append ?_).concat ?_
    · rintro other hother _ ⟨load, -, hmodule, -⟩
      obtain ⟨_, -, rfl⟩ := List.mem_map.mp hother
      cases hmodule
    · rintro _ ⟨load, hload, hmodule, rfl⟩
      rcases List.mem_append.mp (hs.complete load hload hmodule) with hbefore | hnew
      · exact List.mem_append_left _ (h.loads load hbefore).2
      · exact List.mem_append_right _ (List.mem_map_of_mem hnew)

section

variable (hd : checkout.document = some document)
  (hm : Manifest.nearest? checkout.tree (checkout.directoryOf document) = .ok (some manifest))
  (hs : checkout.directoryOf (checkout.anchorOr document) = start)

include hd hm hs

theorem exists_add {before : List Stmt} {loaded : Loaded}
    (h : loaded.Serves manifest start before) (hc : loaded.cache.Agrees checkout.tree)
    (stmt : Stmt) :
    ∃ next, loaded.add checkout stmt = .ok next ∧ next.cache.Agrees checkout.tree ∧
      next.Serves manifest start (before ++ [stmt]) := by
  obtain ⟨needed, hneeded, hagrees, hserve⟩ :=
    exists_ofModules hd hm hs hc (fun load hload => (h.loads load hload).1) stmt.importedModules
  rw [add_eq, hneeded]
  exact ⟨_, rfl, hagrees, h.concat hserve _ _⟩

theorem exists_foldlM_add (imports : List Stmt) {before : List Stmt} {loaded : Loaded}
    (h : loaded.Serves manifest start before) (hc : loaded.cache.Agrees checkout.tree) :
    ∃ next, imports.foldlM (add checkout) loaded = .ok next ∧
      next.Serves manifest start (before ++ imports) := by
  induction imports generalizing before loaded with
  | nil => exact ⟨loaded, rfl, by rwa [List.append_nil]⟩
  | cons stmt imports ih =>
    obtain ⟨next, hnext, hagrees, hserves⟩ := exists_add hd hm hs h hc stmt
    obtain ⟨last, hlast, hall⟩ := ih hserves hagrees
    refine ⟨last, ?_, by rwa [List.append_cons]⟩
    rw [List.foldlM_cons, hnext]
    exact hlast

end

/-- Without the loads, the statements are the imports. -/
theorem Serves.filter_statements {imports : List Stmt} {loaded : Loaded}
    (h : loaded.Serves manifest start imports) (hi : ∀ stmt ∈ imports, stmt.isImport = true) :
    loaded.statements.filter Stmt.isImport = imports := by
  rw [← h.imports] at hi ⊢
  rw [statements]
  generalize loaded.imports = groups at hi ⊢
  induction groups with
  | nil => rfl
  | cons group groups ih =>
    rw [List.map_cons, List.forall_mem_cons] at hi
    have hloads : (group.1.map Load.statement).filter Stmt.isImport = [] := by
      simp [List.filter_eq_nil_iff, Load.statement, Check.load, Stmt.isImport]
    rw [List.flatMap_cons, List.filter_append, List.filter_append, hloads, List.nil_append,
      List.filter_cons_of_pos hi.1, ih hi.2]
    rfl

end Loaded

/-- Some modules are loaded, if they are imported, before they are imported; no others are. -/
structure LoadsExactly (wanted : String → Prop) (statements : List Stmt) : Prop where
  loaded : ∀ front stmt back, statements = front ++ stmt :: back →
    ∀ module ∈ stmt.absoluteModules, wanted module →
      ∃ location, Check.load module location ∈ front
  only : ∀ module location, Check.load module location ∈ statements →
    wanted module ∧ ∃ stmt ∈ statements, module ∈ stmt.absoluteModules

/-- The modules of the package around a document are loaded, from their locations, before they are
imported, and no others are. Where the way to the package reads like its name, the package itself
is taken for a module without a location and not loaded. -/
theorem ofImports_loadsExactly {checkout : Checkout} {document : String} {manifest : Manifest}
    {cache : ManifestCache} {imports : List Stmt} (hd : checkout.document = some document)
    (hm : Manifest.nearest? checkout.tree (checkout.directoryOf document) = .ok (some manifest))
    (hc : cache.Agrees checkout.tree) (hi : ∀ stmt ∈ imports, stmt.isImport = true) :
    let start := checkout.directoryOf (checkout.anchorOr document)
    ∃ loaded, Loaded.ofImports checkout cache imports = .ok loaded ∧
      loaded.statements.filter Stmt.isImport = imports ∧
      LoadsExactly (fun module => manifest.Owns module ∧
        ¬ (module = manifest.importName ∧ manifest.IsMistakenFrom start)) loaded.statements ∧
      ∀ module location, Check.load module location ∈ loaded.statements →
        locationIn? manifest start module = some location := by
  intro start
  have hempty : Loaded.Serves manifest start [] { cache } := ⟨rfl, by simp, .nil⟩
  obtain ⟨loaded, hloaded, hserves⟩ := Loaded.exists_foldlM_add hd hm rfl imports hempty hc
  rw [List.nil_append] at hserves
  refine ⟨loaded, hloaded, hserves.filter_statements hi, ⟨?_, ?_⟩, ?_⟩
  · intro front stmt back hsplit module hmodule hwanted
    obtain ⟨location, hload⟩ := exists_loadOf_iff.mpr hwanted
    refine ⟨location, hserves.ordered front stmt back hsplit _ ⟨_, hload, ?_, rfl⟩⟩
    exact (Stmt.mem_importedModules_iff hwanted.1 stmt).mpr hmodule
  · intro module location hmem
    obtain ⟨hload, stmt, hstmt, hmodule⟩ := hserves.of_mem hi ⟨module, location⟩ hmem
    have hwanted := exists_loadOf_iff.mp ⟨location, hload⟩
    exact ⟨hwanted, stmt, hstmt, (Stmt.mem_importedModules_iff hwanted.1 stmt).mp hmodule⟩
  · intro module location hmem
    exact (hserves.of_mem hi ⟨module, location⟩ hmem).1.located

/-- The package around the document and a module below it, behind a module of another package. -/
def guideImports : List Stmt :=
  [.simple {} (.importModules [⟨"os", none⟩, ⟨"doc_tools.sub", some "sub"⟩]),
    .simple {} (.importFrom (some "doc_tools") [⟨"run", none⟩] 0)]

theorem ofImports_loadsExactly_otherDirectory :
    let start := guideCheckout.directoryOf "/out/test_guide.py"
    ¬ guideManifest.IsMistakenFrom start ∧
    ∃ loaded, Loaded.ofImports guideCheckout {} guideImports = .ok loaded ∧
      loaded.statements.filter Stmt.isImport = guideImports ∧
      LoadsExactly (fun module => guideManifest.Owns module ∧
        ¬ (module = guideManifest.importName ∧ guideManifest.IsMistakenFrom start))
        loaded.statements ∧
      ∀ module location, Check.load module location ∈ loaded.statements →
        locationIn? guideManifest start module = some location := by
  refine ⟨?_, ofImports_loadsExactly rfl ?_ (ManifestCache.agrees_empty _) ?_⟩
  · unfold Manifest.IsMistakenFrom
    decide +kernel
  · decide +kernel
  · simp [guideImports, Stmt.isImport]

/-- The directory of the package has the name of the package, and the suite lies beside it. -/
def namesakeCheckout : Checkout where
  tree := {
    working := ⟨1, ["work"]⟩
    nodes := [
      (["work"], .directory),
      (["work", "foo"], .directory),
      (["work", "foo", "pyproject.toml"],
        .file ("[project]\nname = \"foo\"\n".toList.map Char.toNat))] }
  document := some "foo/README.md"
  anchor := some "test_readme.py"

def namesakeManifest : Manifest := ⟨"foo", ⟨1, ["work", "foo", "pyproject.toml"]⟩⟩

theorem ofImports_not_loadsExactly_namesake :
    Manifest.nearest? namesakeCheckout.tree (namesakeCheckout.directoryOf "foo/README.md") =
        .ok (some namesakeManifest) ∧
      ∃ loaded, Loaded.ofImports namesakeCheckout {}
          [.simple {} (.importModules [⟨"foo", none⟩])] = .ok loaded ∧
        ¬ LoadsExactly namesakeManifest.Owns loaded.statements := by
  refine ⟨by decide +kernel, ?_⟩
  have hgroups : (Loaded.ofImports namesakeCheckout {}
      [.simple {} (.importModules [⟨"foo", none⟩])]).toOption.map (fun loaded =>
        loaded.imports.map fun group => (group.1, group.2.absoluteModules)) =
      some [([], ["foo"])] := by
    decide +kernel
  obtain ⟨loaded, hloaded, hone⟩ := exists_of_toOption_map hgroups
  refine ⟨loaded, hloaded, fun h => ?_⟩
  obtain ⟨group, himports, hgroup⟩ := List.map_eq_singleton_iff.mp hone
  obtain ⟨hloads, hmodules⟩ := Prod.mk.inj hgroup
  have hstatements : loaded.statements = [] ++ group.2 :: [] := by
    simp [Loaded.statements, himports, hloads]
  have hname : "foo" = namesakeManifest.importName := by decide +kernel
  have hmem : "foo" ∈ group.2.absoluteModules := by simp [hmodules]
  obtain ⟨location, hnone⟩ := h.loaded [] group.2 [] hstatements "foo" hmem (.inl hname)
  cases hnone

end DocSuite
