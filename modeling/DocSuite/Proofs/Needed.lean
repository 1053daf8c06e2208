import DocSuite.Proofs.Loads
import DocSuite.Proofs.Result

/-!
What the modules of an import need, module by module. Main statement: whatever is looked up on the
way, a module is located as it was at the start.
-/
namespace DocSuite

/-! ### Answers stay -/

namespace ManifestCache

variable (cache : ManifestCache) (tree : FileTree) (directory : Path)

/-- A directory that is looked up again has the same answer. -/
theorem fst_lookup_lookup :
    ((cache.lookup tree directory).2.lookup tree directory).1 =
      (cache.lookup tree directory).1 := by
  cases hentry : cache.entries.lookup directory with
  | some manifest => simp [lookup, hentry]
  | none =>
    cases hnearest : Manifest.nearest? tree directory with
    | ok manifest => simp [lookup, hentry, hnearest]
    | error fault => simp [lookup, hentry, hnearest]

end ManifestCache

namespace Checkout

variable (checkout : Checkout) (cache : ManifestCache)

/-- Every module is located with the answer for the directory of the document. -/
theorem location?_eq {document : String} (h : checkout.document = some document) (module : String) :
    ∃ locate : Option Manifest → Option String,
      checkout.location? cache module =
        ((cache.lookup checkout.tree (checkout.directoryOf document)).1.map locate,
          (cache.lookup checkout.tree (checkout.directoryOf document)).2) := by
  simp only [location?, h]
  exact ⟨_, rfl⟩

/-- Behind other modules, a module is located as in front of them. -/
theorem fst_location?_snd (module other : String) :
    (checkout.location? (checkout.location? cache other).2 module).1 =
      (checkout.location? cache module).1 := by
  cases hd : checkout.document with
  | none => simp [location?, hd]
  | some document =>
    simp only [location?, hd, ManifestCache.fst_lookup_lookup]

/-- A module has its location in the package of some manifest. -/
theorem exists_locationIn? {checkout : Checkout} {cache : ManifestCache} {module location : String}
    (h : (checkout.location? cache module).1 = .ok (some location)) :
    ∃ manifest start, locationIn? manifest start module = some location := by
  cases hd : checkout.document with
  | none => simp [location?, hd] at h
  | some document =>
    simp only [location?, hd] at h
    cases hl : (cache.lookup checkout.tree (checkout.directoryOf document)).1 with
    | error fault =>
      rw [hl] at h
      cases h
    | ok manifest =>
      rw [hl, Except.map, Except.ok.injEq, Option.bind_eq_some_iff] at h
      obtain ⟨found, -, hlocation⟩ := h
      exact ⟨found, _, hlocation⟩

end Checkout

/-! ### Modules one by one -/

namespace Needed

variable {checkout : Checkout} {cache after : ManifestCache} {loaded : List Load} {module : String}
  {modules : List String}

theorem ofModules_of_fault {fault : ManifestFault}
    (h : loaded.any (fun load => load.module == module) = false)
    (hl : checkout.location? cache module = (.error fault, after)) :
    ofModules checkout cache loaded (module :: modules) = .error fault := by
  rw [ofModules, h, hl]
  rfl

/-- What the first module can do: it is loaded before, or it has no location, or one that reads like
its name, or it is loaded. -/
inductive First (checkout : Checkout) (cache : ManifestCache) (loaded : List Load)
    (module : String) (modules : List String) (needed : Needed) : Prop
  | seen (load : Load) (mem : load ∈ loaded) (same : load.module = module)
      (rest : ofModules checkout cache loaded modules = .ok needed)
  | foreign (after : ManifestCache) (fresh : ∀ load ∈ loaded, load.module ≠ module)
      (located : checkout.location? cache module = (.ok none, after))
      (rest : ofModules checkout after loaded modules = .ok needed)
  | mistaken (after : ManifestCache) (others : Needed)
      (fresh : ∀ load ∈ loaded, load.module ≠ module)
      (located : checkout.location? cache module = (.ok (some module), after))
      (rest : ofModules checkout after loaded modules = .ok others)
      (result : needed = { others with located := ⟨module, module⟩ :: others.located })
  | loaded (after : ManifestCache) (others : Needed) (location : String)
      (fresh : ∀ load ∈ loaded, load.module ≠ module) (apart : location ≠ module)
      (located : checkout.location? cache module = (.ok (some location), after))
      (rest : ofModules checkout after (⟨module, location⟩ :: loaded) modules = .ok others)
      (result : needed = { others with
        loads := ⟨module, location⟩ :: others.loads
        located := ⟨module, location⟩ :: others.located })

theorem first_of_ok {needed : Needed}
    (h : ofModules checkout cache loaded (module :: modules) = .ok needed) :
    First checkout cache loaded module modules needed := by
  cases hseen : loaded.any fun load => load.module == module with
  | true =>
    obtain ⟨load, hload, hsame⟩ := List.any_eq_true.mp hseen
    rw [ofModules_of_loaded modules hseen] at h
    exact .seen load hload (eq_of_beq hsame) h
  | false =>
    have hfresh : ∀ load ∈ loaded, load.module ≠ module := by simpa using hseen
    rcases hl : checkout.location? cache module with ⟨fault | _ | location, after⟩
    · rw [ofModules_of_fault hseen hl] at h
      cases h
    · rw [ofModules_of_none modules hseen hl] at h
      exact .foreign after hfresh hl h
    · by_cases hname : location = module
      · subst hname
        rw [ofModules_of_same modules hseen hl] at h
        obtain ⟨others, hrest, hresult⟩ := exists_of_map_eq_ok h
        exact .mistaken after others hfresh hl hrest hresult
      · rw [ofModules_of_location modules hseen hname hl] at h
        obtain ⟨others, hrest, hresult⟩ := exists_of_map_eq_ok h
        exact .loaded after others location hfresh hname hl hrest hresult

end Needed

end DocSuite

