import DocSuite.Proofs.FutureImports
import DocSuite.Proofs.Needed

/-!
The order of loads among imports. Main statement: whatever resolves the modules, without the loads
the statements are the imports, and each load stands right in front of the first import of its
module.
-/
namespace DocSuite

open DocSuite.Syntax

/-! ### Modules that are loaded -/

namespace Checkout

/-- The module of the load is located, and its location does not read like its name. -/
structure Wants (checkout : Checkout) (cache : ManifestCache) (load : Load) : Prop where
  located : (checkout.location? cache load.module).1 = .ok (some load.location)
  apart : load.location ≠ load.module

theorem Wants.unique {checkout : Checkout} {cache : ManifestCache} {load other : Load}
    (h : checkout.Wants cache load) (ho : checkout.Wants cache other)
    (hm : load.module = other.module) : load = other := by
  obtain ⟨module, location⟩ := load
  obtain ⟨_, otherLocation⟩ := other
  obtain rfl : module = _ := hm
  have hlocated := h.located.symm.trans ho.located
  rw [Except.ok.injEq, Option.some.injEq] at hlocated
  obtain rfl : location = otherLocation := hlocated
  rfl

/-- A module that is loaded is imported by every statement that names it. -/
theorem Wants.mem_importedModules_iff {checkout : Checkout} {cache : ManifestCache} {load : Load}
    (h : checkout.Wants cache load) (stmt : Stmt) :
    load.module ∈ stmt.importedModules ↔ load.module ∈ stmt.absoluteModules := by
  obtain ⟨manifest, start, hlocated⟩ := exists_locationIn? h.located
  have howns := (exists_loadOf_iff.mp ⟨load.location, hlocated, h.apart⟩).1
  exact Stmt.mem_importedModules_iff howns stmt

/-- Modules are located with one cache as with the other. -/
def Agree (checkout : Checkout) (cache after : ManifestCache) : Prop :=
  ∀ module, (checkout.location? after module).1 = (checkout.location? cache module).1

variable {checkout : Checkout} {cache after : ManifestCache}

theorem Agree.refl (checkout : Checkout) (cache : ManifestCache) : checkout.Agree cache cache :=
  fun _ => rfl

theorem Agree.location? (h : checkout.Agree cache after) (module : String) :
    checkout.Agree cache (checkout.location? after module).2 :=
  fun other => (checkout.fst_location?_snd after other module).trans (h other)

end Checkout

/-! ### Loads for the modules of an import -/

/-- What an import needs, behind the loads that there are. -/
structure Needed.Fits (checkout : Checkout) (cache : ManifestCache) (loaded : List Load)
    (modules : List String) (needed : Needed) : Prop where
  agree : checkout.Agree cache needed.cache
  wanted : ∀ load ∈ needed.loads, checkout.Wants cache load ∧ load.module ∈ modules
  nodup : (needed.loads.map Load.module).Nodup
  fresh : ∀ load ∈ needed.loads, ∀ other ∈ loaded, other.module ≠ load.module
  complete : ∀ load, checkout.Wants cache load → load.module ∈ modules →
    ∃ other ∈ loaded ++ needed.loads, other.module = load.module

namespace Needed

variable {checkout : Checkout} {cache : ManifestCache} {loaded : List Load} {module : String}
  {modules : List String} {needed : Needed}

theorem Fits.skip (h : Fits checkout cache loaded modules needed)
    (hm : ∀ load, checkout.Wants cache load → load.module = module →
      ∃ other ∈ loaded, other.module = module) :
    Fits checkout cache loaded (module :: modules) needed where
  agree := h.agree
  wanted load hload := (h.wanted load hload).imp_right (List.mem_cons_of_mem _)
  nodup := h.nodup
  fresh := h.fresh
  complete load hload hmodule := by
    rcases List.mem_cons.mp hmodule with heq | hrest
    · obtain ⟨other, hother, hsame⟩ := hm load hload heq
      exact ⟨other, List.mem_append_left _ hother, hsame.trans heq.symm⟩
    · exact h.complete load hload hrest

theorem Fits.cons {load : Load} (hw : checkout.Wants cache load)
    (hf : ∀ other ∈ loaded, other.module ≠ load.module)
    (h : Fits checkout cache (load :: loaded) modules needed) (located : List Load) :
    Fits checkout cache loaded (load.module :: modules)
      { needed with loads := load :: needed.loads, located } where
  agree := h.agree
  wanted := by
    refine List.forall_mem_cons.mpr ⟨⟨hw, List.mem_cons_self⟩, fun other hother => ?_⟩
    exact (h.wanted other hother).imp_right (List.mem_cons_of_mem _)
  nodup := by
    refine List.nodup_cons.mpr ⟨fun hmem => ?_, h.nodup⟩
    obtain ⟨other, hother, hsame⟩ := List.mem_map.mp hmem
    exact h.fresh other hother load List.mem_cons_self hsame.symm
  fresh := by
    refine List.forall_mem_cons.mpr ⟨hf, fun other hother before hbefore => ?_⟩
    exact h.fresh other hother before (List.mem_cons_of_mem _ hbefore)
  complete := by
    intro other hother hmodule
    rcases List.mem_cons.mp hmodule with heq | hrest
    · exact ⟨load, List.mem_append_right _ List.mem_cons_self, heq.symm⟩
    · obtain ⟨third, hthird, hsame⟩ := h.complete other hother hrest
      exact ⟨third, List.perm_middle.mem_iff.mpr hthird, hsame⟩

theorem succeeds_ofModules {after : ManifestCache} (loaded : List Load)
    (ha : checkout.Agree cache after)
    (hr : ∀ module ∈ modules, Succeeds (checkout.location? cache module).1) :
    Succeeds (ofModules checkout after loaded modules) := by
  induction modules generalizing after loaded with
  | nil => exact ⟨_, rfl⟩
  | cons module modules ih =>
    rw [List.forall_mem_cons] at hr
    cases hseen : loaded.any fun load => load.module == module with
    | true =>
      rw [ofModules_of_loaded modules hseen]
      exact ih loaded ha hr.2
    | false =>
      have hlocated := hr.1
      have hnext := ha.location? module
      rw [← ha module] at hlocated
      rcases hl : checkout.location? after module with ⟨fault | _ | location, next⟩
      · rw [hl, succeeds_error] at hlocated
        exact hlocated.elim
      · rw [hl] at hnext
        rw [ofModules_of_none modules hseen hl]
        exact ih loaded hnext hr.2
      · rw [hl] at hnext
        by_cases hname : location = module
        · subst hname
          rw [ofModules_of_same modules hseen hl, succeeds_map]
          exact ih loaded hnext hr.2
        · rw [ofModules_of_location modules hseen hname hl, succeeds_map]
          exact ih (_ :: loaded) hnext hr.2

theorem fits_of_ok {after : ManifestCache} (ha : checkout.Agree cache after)
    (h : ofModules checkout after loaded modules = .ok needed) :
    Fits checkout cache loaded modules needed := by
  induction modules generalizing after loaded needed with
  | nil =>
    cases h
    exact ⟨ha, by simp, by simp, by simp, by simp⟩
  | cons module modules ih =>
    have hnext := ha.location? module
    cases first_of_ok h with
    | seen load mem same rest => exact (ih ha rest).skip fun _ _ _ => ⟨load, mem, same⟩
    | foreign next fresh located rest =>
      rw [located] at hnext
      refine (ih hnext rest).skip fun load hload heq => ?_
      have hlocated := hload.located
      rw [heq, ← ha module, located] at hlocated
      cases hlocated
    | mistaken next others fresh located rest result =>
      rw [located] at hnext
      have hrest : Fits checkout cache loaded (module :: modules) others := by
        refine (ih hnext rest).skip fun load hload heq => ?_
        have hlocated := hload.located
        rw [heq, ← ha module, located, Except.ok.injEq, Option.some.injEq] at hlocated
        exact absurd (hlocated.symm.trans heq.symm) hload.apart
      rw [result]
      exact ⟨hrest.agree, hrest.wanted, hrest.nodup, hrest.fresh, hrest.complete⟩
    | loaded next others location fresh apart located rest result =>
      rw [located] at hnext
      have hwanted : checkout.Wants cache ⟨module, location⟩ :=
        ⟨by rw [← ha module, located], apart⟩
      rw [result]
      exact (ih hnext rest).cons hwanted fresh _

end Needed

/-! ### Loads for imports in a row -/

namespace Loaded

/-- Loads stand in front of the first import that wants them, and all that are wanted are there. -/
structure Fits (checkout : Checkout) (cache : ManifestCache) (loaded : Loaded) : Prop where
  agree : checkout.Agree cache loaded.cache
  nodup : (loaded.loads.map Load.module).Nodup
  wanted : ∀ group ∈ loaded.imports, ∀ load ∈ group.1,
    checkout.Wants cache load ∧ load.module ∈ group.2.importedModules
  first : loaded.imports.Pairwise fun earlier later =>
    ∀ load ∈ later.1, load.module ∉ earlier.2.importedModules
  complete : ∀ group ∈ loaded.imports, ∀ load, checkout.Wants cache load →
    load.module ∈ group.2.importedModules → ∃ other ∈ loaded.loads, other.module = load.module

variable {checkout : Checkout} {cache : ManifestCache} {loaded : Loaded}

theorem fits_empty (checkout : Checkout) (cache : ManifestCache) :
    Fits checkout cache { cache } where
  agree := .refl checkout cache
  nodup := List.nodup_nil
  wanted := by simp
  first := .nil
  complete := by simp

theorem Fits.concat (h : Fits checkout cache loaded) {stmt : Stmt} {needed : Needed}
    (hn : needed.Fits checkout cache loaded.loads stmt.importedModules) {next : Loaded}
    (hi : next.imports = loaded.imports ++ [(needed.loads, stmt)])
    (hc : next.cache = needed.cache) : Fits checkout cache next := by
  have hloads : next.loads = loaded.loads ++ needed.loads := by simp [loads, hi]
  constructor
  case agree => exact hc ▸ hn.agree
  case nodup =>
    rw [hloads, List.map_append, List.nodup_append]
    refine ⟨h.nodup, hn.nodup, ?_⟩
    rintro _ hbefore _ hnew
    obtain ⟨other, hother, rfl⟩ := List.mem_map.mp hbefore
    obtain ⟨load, hload, rfl⟩ := List.mem_map.mp hnew
    exact hn.fresh load hload other hother
  case wanted =>
    rw [hi]
    intro group hgroup
    rcases List.mem_append.mp hgroup with hbefore | hlast
    · exact h.wanted group hbefore
    · rw [List.mem_singleton.mp hlast]
      exact hn.wanted
  case first =>
    rw [hi]
    refine List.pairwise_append.mpr ⟨h.first, List.pairwise_singleton _ _, ?_⟩
    intro earlier hearlier later hlater load hload hmodule
    rw [List.mem_singleton.mp hlater] at hload
    -- An earlier import of the module would have its load there.
    obtain ⟨other, hother, hsame⟩ :=
      h.complete earlier hearlier load (hn.wanted load hload).1 hmodule
    exact hn.fresh load hload other hother hsame
  case complete =>
    rw [hi, hloads]
    intro group hgroup load hload hmodule
    rcases List.mem_append.mp hgroup with hbefore | hlast
    · obtain ⟨other, hother, hsame⟩ := h.complete group hbefore load hload hmodule
      exact ⟨other, List.mem_append_left _ hother, hsame⟩
    · rw [List.mem_singleton.mp hlast] at hmodule
      exact hn.complete load hload hmodule

/-- A load of an import is wanted by this import, and by none before it. -/
theorem Fits.of_split (h : Fits checkout cache loaded) {before behind : List (List Load × Stmt)}
    {first others : List Load} {load : Load} {stmt : Stmt}
    (hs : loaded.imports = before ++ (first ++ load :: others, stmt) :: behind) :
    checkout.Wants cache load ∧ load.module ∈ stmt.importedModules ∧
      ∀ group ∈ before, load.module ∉ group.2.importedModules := by
  have hmem : load ∈ first ++ load :: others := List.mem_append_right _ List.mem_cons_self
  have hgroup : (first ++ load :: others, stmt) ∈ loaded.imports := by simp [hs]
  obtain ⟨hload, hmodule⟩ := h.wanted _ hgroup load hmem
  have hfirst := h.first
  rw [hs, List.pairwise_append] at hfirst
  exact ⟨hload, hmodule, fun group hbefore =>
    hfirst.2.2 group hbefore _ List.mem_cons_self load hmem⟩

theorem Fits.exists_add (h : Fits checkout cache loaded) {stmt : Stmt}
    (hr : ∀ module ∈ stmt.importedModules, Succeeds (checkout.location? cache module).1) :
    ∃ next, loaded.add checkout stmt = .ok next ∧ Fits checkout cache next := by
  obtain ⟨needed, hneeded⟩ := Needed.succeeds_ofModules loaded.loads h.agree hr
  rw [add_eq, hneeded]
  exact ⟨_, rfl, h.concat (Needed.fits_of_ok h.agree hneeded) rfl rfl⟩

theorem Fits.exists_foldlM (h : Fits checkout cache loaded) {imports : List Stmt}
    (hr : ∀ stmt ∈ imports, ∀ module ∈ stmt.importedModules,
      Succeeds (checkout.location? cache module).1) :
    ∃ last, imports.foldlM (add checkout) loaded = .ok last ∧ Fits checkout cache last := by
  induction imports generalizing loaded with
  | nil => exact ⟨loaded, rfl, h⟩
  | cons stmt imports ih =>
    rw [List.forall_mem_cons] at hr
    obtain ⟨next, hnext, hfits⟩ := h.exists_add hr.1
    rw [List.foldlM_cons, hnext]
    exact ih hfits hr.2

end Loaded

/-! ### Loads among statements -/

/-- A call of the function that loads modules. -/
def Syntax.Stmt.isLoad : Stmt → Bool
  | .simple _ (.expr ⟨_, .call ⟨_, .attribute ⟨_, .name support⟩ function⟩ _ _⟩) =>
      support == supportName && function == "load_local"
  | _ => false

theorem Load.isLoad_statement (load : Load) : load.statement.isLoad = true := rfl

theorem Syntax.Stmt.isLoad_of_isImport {stmt : Stmt} (h : stmt.isImport = true) :
    stmt.isLoad = false := by
  unfold isImport at h
  split at h
  next => rfl
  next => rfl
  next => cases h

theorem Syntax.Stmt.isFuture_of_mem_importedModules {stmt : Stmt} {module : String}
    (h : module ∈ stmt.importedModules) : stmt.isFuture = false := by
  unfold importedModules at h
  split at h
  next => rfl
  next source _ =>
    split at h
    next => cases h
    next hother => simpa [isFuture] using hother
  next => cases h

namespace Loaded

/-- An import behind its loads. -/
def statementsOf (group : List Load × Stmt) : List Stmt :=
  group.1.map Load.statement ++ [group.2]

variable {groups : List (List Load × Stmt)} (hi : ∀ group ∈ groups, group.2.isImport = true)

include hi

theorem filter_isLoad :
    (groups.flatMap statementsOf).filter Stmt.isLoad =
      (groups.flatMap Prod.fst).map Load.statement := by
  induction groups with
  | nil => rfl
  | cons group groups ih =>
    rw [List.forall_mem_cons] at hi
    have himport := Stmt.isLoad_of_isImport hi.1
    have hloads : (group.1.map Load.statement).filter Stmt.isLoad = group.1.map Load.statement := by
      simp [List.filter_eq_self, Load.isLoad_statement]
    rw [List.flatMap_cons, List.flatMap_cons, List.filter_append, ih hi.2, statementsOf,
      List.filter_append, hloads, List.map_append]
    simp [himport]

theorem filter_not_isLoad :
    (groups.flatMap statementsOf).filter (fun stmt => !stmt.isLoad) = groups.map Prod.snd := by
  induction groups with
  | nil => rfl
  | cons group groups ih =>
    rw [List.forall_mem_cons] at hi
    have himport := Stmt.isLoad_of_isImport hi.1
    have hloads : (group.1.map Load.statement).filter (fun stmt => !stmt.isLoad) = [] := by
      simp [List.filter_eq_nil_iff, Load.isLoad_statement]
    rw [List.flatMap_cons, List.filter_append, ih hi.2, statementsOf, List.filter_append, hloads]
    simp [himport]

/-- A load belongs to the import that is next. -/
theorem exists_group {front back : List Stmt} {load : Load}
    (h : groups.flatMap statementsOf = front ++ load.statement :: back) :
    ∃ before first others stmt behind,
      groups = before ++ (first ++ load :: others, stmt) :: behind ∧
      front = before.flatMap statementsOf ++ first.map Load.statement ∧
      back = others.map Load.statement ++ stmt :: behind.flatMap statementsOf := by
  induction groups generalizing front with
  | nil =>
    rw [List.flatMap_nil] at h
    simp at h
  | cons group groups ih =>
    obtain ⟨loads, stmt⟩ := group
    rw [List.forall_mem_cons] at hi
    have hother : stmt ≠ load.statement := by
      rintro rfl
      cases hi.1
    rw [List.flatMap_cons, statementsOf, List.append_assoc, List.singleton_append,
      List.append_eq_append_iff] at h
    rcases h with ⟨later, hfront, hlater⟩ | ⟨rest, hloads, hrest⟩
    · -- The load stands behind the first import.
      cases later with
      | nil => exact absurd (List.cons.inj hlater).1 hother
      | cons _ later =>
        obtain ⟨rfl, hgroups⟩ := List.cons.inj hlater
        obtain ⟨before, first, others, next, behind, rfl, rfl, hback⟩ := ih hi.2 hgroups
        refine ⟨(loads, stmt) :: before, first, others, next, behind, rfl, ?_, hback⟩
        rw [hfront, List.flatMap_cons, statementsOf]
        simp
    · cases rest with
      | nil => exact absurd (List.cons.inj hrest).1.symm hother
      | cons _ rest =>
        obtain ⟨rfl, hback⟩ := List.cons.inj hrest
        obtain ⟨first, behind, rfl, hfirst, hbehind⟩ := List.map_eq_append_iff.mp hloads
        obtain ⟨other, others, rfl, hsame, rfl⟩ := List.map_eq_cons_iff.mp hbehind
        obtain rfl := Load.statement_injective hsame
        exact ⟨[], first, others, stmt, groups, rfl, by rw [← hfirst]; rfl, by rw [hback]; rfl⟩

end Loaded

/-- The statements are the imports and loads for them. Each module has one load at most, right in
front of the first import that names it from the top, but for other loads. -/
structure AddsLoads (checkout : Checkout) (cache : ManifestCache) (imports : List Stmt)
    (loads : List Load) (statements : List Stmt) : Prop where
  rest : statements.filter (fun stmt => !stmt.isLoad) = imports
  added : statements.filter Stmt.isLoad = loads.map Load.statement
  once : (loads.map Load.module).Nodup
  wanted : ∀ load ∈ loads, checkout.Wants cache load
  complete : ∀ stmt ∈ imports, ∀ load, checkout.Wants cache load →
    load.module ∈ stmt.absoluteModules → load ∈ loads
  inTime : ∀ (front : List Stmt) (load : Load) (back : List Stmt),
    statements = front ++ load.statement :: back →
    (∀ earlier ∈ front, load.module ∉ earlier.absoluteModules) ∧
      ∃ (others : List Load) (stmt : Stmt) (behind : List Stmt),
        back = others.map Load.statement ++ stmt :: behind ∧
        load.module ∈ stmt.absoluteModules ∧ stmt.isFuture = false

/-- Imports get loads for the modules of the package that they name, and nothing else changes: each
module is loaded once, and in time. -/
theorem ofImports_addsLoads {checkout : Checkout} {cache : ManifestCache} {imports : List Stmt}
    (hi : ∀ stmt ∈ imports, stmt.isImport = true)
    (hr : ∀ stmt ∈ imports, ∀ module ∈ stmt.importedModules,
      Succeeds (checkout.location? cache module).1) :
    ∃ loaded, Loaded.ofImports checkout cache imports = .ok loaded ∧
      AddsLoads checkout cache imports loaded.loads loaded.statements := by
  obtain ⟨loaded, hloaded, hfits⟩ := (Loaded.fits_empty checkout cache).exists_foldlM hr
  have himports := Loaded.imports_ofImports hloaded
  have hgroups : ∀ group ∈ loaded.imports, group.2.isImport = true := by
    intro group hgroup
    exact hi group.2 (himports ▸ List.mem_map_of_mem hgroup)
  have hwanted : ∀ load ∈ loaded.loads, checkout.Wants cache load := by
    intro load hload
    obtain ⟨group, hgroup, hmem⟩ := List.mem_flatMap.mp hload
    exact (hfits.wanted group hgroup load hmem).1
  refine ⟨loaded, hloaded, ?_, Loaded.filter_isLoad hgroups, hfits.nodup, hwanted, ?_, ?_⟩
  · exact (Loaded.filter_not_isLoad hgroups).trans himports
  · intro stmt hstmt load hload hmodule
    rw [← himports] at hstmt
    obtain ⟨group, hgroup, rfl⟩ := List.mem_map.mp hstmt
    obtain ⟨other, hother, hsame⟩ := hfits.complete group hgroup load hload
      ((hload.mem_importedModules_iff group.2).mpr hmodule)
    rwa [← (hwanted other hother).unique hload hsame]
  · intro front load back hsplit
    obtain ⟨before, first, others, stmt, behind, hgroup, rfl, rfl⟩ :=
      Loaded.exists_group hgroups hsplit
    obtain ⟨hload, hmodule, hnone⟩ := hfits.of_split hgroup
    refine ⟨?_, others, stmt, _, rfl, (hload.mem_importedModules_iff stmt).mp hmodule,
      Stmt.isFuture_of_mem_importedModules hmodule⟩
    intro earlier hearlier
    rcases List.mem_append.mp hearlier with hbefore | hfirst
    · obtain ⟨group, hgroup, hstmt⟩ := List.mem_flatMap.mp hbefore
      rcases List.mem_append.mp hstmt with hother | himport
      · obtain ⟨other, -, rfl⟩ := List.mem_map.mp hother
        exact List.not_mem_nil
      · rw [List.mem_singleton.mp himport, ← hload.mem_importedModules_iff]
        exact hnone group hgroup
    · obtain ⟨other, -, rfl⟩ := List.mem_map.mp hfirst
      exact List.not_mem_nil

/-- Relative imports, and those that say how a module is read, among imports that name modules of
the package again and again. -/
def crowdedImports : List Stmt :=
  [.simple {} (.importFrom (some "doc_tools") [⟨"run", none⟩] 1),
    .simple {} (.importModules
      [⟨"os", none⟩, ⟨"doc_tools.sub", none⟩, ⟨"doc_tools", none⟩, ⟨"doc_tools.sub", some "sub"⟩]),
    .simple {} (.importFrom (some futureName) [⟨"annotations", none⟩] 0),
    .simple {} (.importFrom (some "doc_tools.sub") [⟨"run", none⟩] 0),
    .simple {} (.importModules [⟨"doc_tools.end", none⟩])]

theorem ofImports_addsLoads_crowded :
    (∀ stmt ∈ crowdedImports, ∀ module ∈ stmt.importedModules,
      Succeeds (guideCheckout.location? {} module).1) ∧
    ∃ loaded, Loaded.ofImports guideCheckout {} crowdedImports = .ok loaded ∧
      AddsLoads guideCheckout {} crowdedImports loaded.loads loaded.statements := by
  have hi : ∀ stmt ∈ crowdedImports, stmt.isImport = true := by simp [crowdedImports, Stmt.isImport]
  have hr : ∀ stmt ∈ crowdedImports, ∀ module ∈ stmt.importedModules,
      Succeeds (guideCheckout.location? {} module).1 := by
    decide +kernel
  exact ⟨hr, ofImports_addsLoads hi hr⟩

end DocSuite
