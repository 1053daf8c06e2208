import DocSuite.Proofs.Compilation
import DocSuite.Proofs.Needed
import Mathlib.Data.List.Dedup
import Mathlib.Data.List.Perm.Basic

/-!
The search for manifests, and what a cache spares of it. Main statement: whatever directories are
looked up, each answer is that of a search of its own, and a directory with an answer is searched
once. So a compilation searches once at most.
-/
namespace DocSuite

open DocSuite.Syntax

/-! ### The search -/

namespace Path

/-- The directory is the other one or lies above it. -/
def IsAtOrAbove (above path : Path) : Prop :=
  above.slashes = path.slashes ∧ above.names <+: path.names

/-- The path without its last names. -/
def back (path : Path) (n : Nat) : Path :=
  { path with names := path.names.take (path.names.length - n) }

theorem withParents_eq (path : Path) :
    path.withParents = (List.range (path.names.length + 1)).map path.back := rfl

theorem isAtOrAbove_iff {above path : Path} :
    above.IsAtOrAbove path ↔ ∃ n < path.names.length + 1, above = path.back n := by
  obtain ⟨slashes, names⟩ := above
  constructor
  · rintro ⟨hslashes, hnames⟩
    have hlength := hnames.length_le
    refine ⟨path.names.length - names.length, by omega, ?_⟩
    have htake := List.prefix_iff_eq_take.mp hnames
    simp only [back, Path.mk.injEq]
    refine ⟨hslashes, ?_⟩
    rw [Nat.sub_sub_self hlength]
    exact htake
  · rintro ⟨n, -, hback⟩
    rw [hback]
    exact ⟨rfl, List.take_prefix _ _⟩

/-- A path with more names left is nearer. -/
theorem back_isAtOrAbove_back (path : Path) {m n : Nat} (h : n ≤ m) :
    (path.back m).IsAtOrAbove (path.back n) :=
  ⟨rfl, List.take_prefix_take_left (by omega)⟩

end Path

namespace Manifest

/-- The deepest directory, at or above the given one, that has a manifest file. -/
structure IsNearest (tree : FileTree) (directory found : Path) : Prop where
  above : found.IsAtOrAbove directory
  isFile : tree.isFile (found.child fileName) = true
  deepest : ∀ other : Path, other.IsAtOrAbove directory →
    tree.isFile (other.child fileName) = true → other.IsAtOrAbove found

/-- The reading of the nearest manifest file, whatever it declares; nothing if there is none. -/
def IsReading (tree : FileTree) (directory : Path)
    (answer : Except ManifestFault (Option Manifest)) : Prop :=
  (∃ found, IsNearest tree directory found ∧ answer = read? tree (found.child fileName)) ∨
    (∀ above : Path, above.IsAtOrAbove directory → tree.isFile (above.child fileName) = false) ∧
      answer = .ok none

theorem isReading_nearest (tree : FileTree) (directory : Path) :
    IsReading tree directory (nearest? tree directory) := by
  have hfile : nearestFile? tree directory.withParents =
      ((List.range (directory.names.length + 1)).find? fun n =>
        tree.isFile ((directory.back n).child fileName)).map fun n =>
          (directory.back n).child fileName := by
    rw [nearestFile?, Path.withParents_eq, List.map_map, List.find?_map]
    rfl
  rw [nearest?, hfile]
  cases hfound : (List.range (directory.names.length + 1)).find? fun n =>
      tree.isFile ((directory.back n).child fileName) with
  | none =>
    right
    refine ⟨fun above habove => ?_, rfl⟩
    obtain ⟨n, hn, rfl⟩ := Path.isAtOrAbove_iff.mp habove
    rw [List.find?_range_eq_none] at hfound
    simpa using hfound n hn
  | some n =>
    obtain ⟨hisFile, hn, hearlier⟩ := List.find?_range_eq_some.mp hfound
    left
    refine ⟨directory.back n, ⟨?_, hisFile, ?_⟩, rfl⟩
    · exact Path.isAtOrAbove_iff.mpr ⟨n, List.mem_range.mp hn, rfl⟩
    · intro other hother hisOther
      obtain ⟨m, -, rfl⟩ := Path.isAtOrAbove_iff.mp hother
      refine directory.back_isAtOrAbove_back (Nat.le_of_not_lt fun hlt => ?_)
      have hnot := hearlier m hlt
      rw [hisOther] at hnot
      cases hnot

end Manifest

/-! ### Lookups in a row -/

namespace ManifestCache

variable {tree : FileTree} {cache : ManifestCache}

/-- The answers for directories that are looked up in order, and the cache after them. -/
def lookupAll (tree : FileTree) (cache : ManifestCache) :
    List Path → List (Except ManifestFault (Option Manifest)) × ManifestCache
  | [] => ([], cache)
  | directory :: directories =>
      let (answer, cache) := cache.lookup tree directory
      let (answers, cache) := lookupAll tree cache directories
      (answer :: answers, cache)

theorem snd_lookupAll_append (cache : ManifestCache) (directories others : List Path) :
    (lookupAll tree cache (directories ++ others)).2 =
      (lookupAll tree (lookupAll tree cache directories).2 others).2 := by
  induction directories generalizing cache with
  | nil => rfl
  | cons directory directories ih => exact ih _

theorem mem_keys_iff {directory : Path} :
    directory ∈ cache.entries.map Prod.fst ↔ (cache.entries.lookup directory).isSome = true := by
  rw [← not_iff_not, Bool.not_eq_true, Option.isSome_eq_false_iff, Option.isNone_iff_eq_none,
    List.lookup_eq_none_iff]
  constructor
  · intro h entry hentry
    rw [bne_iff_ne]
    rintro rfl
    exact h (List.mem_map_of_mem hentry)
  · rintro h hmem
    obtain ⟨entry, hentry, rfl⟩ := List.mem_map.mp hmem
    exact bne_iff_ne.mp (h entry hentry) rfl

section

variable {directory : Path} {manifest : Option Manifest}

theorem lookup_of_entry (tree : FileTree) (h : cache.entries.lookup directory = some manifest) :
    cache.lookup tree directory = (.ok manifest, { cache with hits := cache.hits + 1 }) := by
  simp only [lookup, h]

theorem lookup_of_answer (h : cache.entries.lookup directory = none)
    (hnearest : Manifest.nearest? tree directory = .ok manifest) :
    cache.lookup tree directory = (.ok manifest, { cache with
      entries := (directory, manifest) :: cache.entries
      misses := cache.misses + 1 }) := by
  simp only [lookup, h, hnearest]

theorem lookup_of_fault {fault : ManifestFault} (h : cache.entries.lookup directory = none)
    (hnearest : Manifest.nearest? tree directory = .error fault) :
    cache.lookup tree directory = (.error fault, { cache with misses := cache.misses + 1 }) := by
  simp only [lookup, h, hnearest]

end

/-- The search for the directory ends with an answer. -/
def Answered (tree : FileTree) (directory : Path) : Prop :=
  Succeeds (Manifest.nearest? tree directory)

instance (directory : Path) : Decidable (Answered tree directory) :=
  inferInstanceAs (Decidable (Succeeds _))

/-- All that can happen to a cache: the directory is known, or it is searched and has an answer, or
it is searched in vain. -/
theorem lookup_cases (h : cache.Agrees tree) (directory : Path) :
    (directory ∈ cache.entries.map Prod.fst ∧ Answered tree directory ∧
      (cache.lookup tree directory).2 = { cache with hits := cache.hits + 1 }) ∨
    (∃ manifest, directory ∉ cache.entries.map Prod.fst ∧ Answered tree directory ∧
      (cache.lookup tree directory).2 = { cache with
        entries := (directory, manifest) :: cache.entries
        misses := cache.misses + 1 }) ∨
    (¬ Answered tree directory ∧
      (cache.lookup tree directory).2 = { cache with misses := cache.misses + 1 }) := by
  cases hentry : cache.entries.lookup directory with
  | some manifest =>
    have hknown : directory ∈ cache.entries.map Prod.fst := mem_keys_iff.mpr (by simp [hentry])
    exact .inl ⟨hknown, ⟨manifest, h directory manifest hentry⟩,
      by rw [lookup_of_entry tree hentry]⟩
  | none =>
    have hunknown : directory ∉ cache.entries.map Prod.fst := by simp [mem_keys_iff, hentry]
    cases hnearest : Manifest.nearest? tree directory with
    | ok manifest =>
      exact .inr (.inl ⟨manifest, hunknown, ⟨manifest, hnearest⟩,
        by rw [lookup_of_answer hentry hnearest]⟩)
    | error fault =>
      exact .inr (.inr ⟨by simp [Answered, hnearest], by rw [lookup_of_fault hentry hnearest]⟩)

/-- The number of searches that end without an answer. -/
def refusals (tree : FileTree) (asked : List Path) : Nat :=
  (asked.filter fun directory => ¬ Answered tree directory).length

theorem refusals_concat_of_answered (asked : List Path) {directory : Path}
    (h : Answered tree directory) : refusals tree (asked ++ [directory]) = refusals tree asked := by
  simp [refusals, h]

theorem refusals_concat_of_not_answered (asked : List Path) {directory : Path}
    (h : ¬ Answered tree directory) :
    refusals tree (asked ++ [directory]) = refusals tree asked + 1 := by
  simp [refusals, h]

/-- What a cache holds, and counts, after some lookups. -/
structure Knows (tree : FileTree) (asked : List Path) (cache : ManifestCache) : Prop where
  agrees : cache.Agrees tree
  nodup : (cache.entries.map Prod.fst).Nodup
  mem_iff : ∀ directory, directory ∈ cache.entries.map Prod.fst ↔
    directory ∈ asked ∧ Answered tree directory
  calls : cache.hits + cache.misses = asked.length
  misses : cache.misses = cache.size + refusals tree asked

namespace Knows

variable {asked : List Path}

theorem empty (tree : FileTree) : Knows tree [] {} where
  agrees := agrees_empty tree
  nodup := List.nodup_nil
  mem_iff := by simp
  calls := rfl
  misses := rfl

/-- A lookup that stores nothing leaves the directories as they are, known or without an answer. -/
theorem mem_concat_iff (h : Knows tree asked cache) {directory : Path}
    (hstored : Answered tree directory → directory ∈ cache.entries.map Prod.fst) (other : Path) :
    other ∈ cache.entries.map Prod.fst ↔ other ∈ asked ++ [directory] ∧ Answered tree other := by
  rw [h.mem_iff, List.mem_append, List.mem_singleton, or_and_right, iff_self_or]
  rintro ⟨rfl, hother⟩
  exact (h.mem_iff other).mp (hstored hother)

theorem lookup (h : Knows tree asked cache) (directory : Path) :
    Knows tree (asked ++ [directory]) (cache.lookup tree directory).2 := by
  have hagrees := (h.agrees.lookup directory).2
  have hcalls : asked.length + 1 = (asked ++ [directory]).length := by simp
  rw [← h.calls] at hcalls
  have hmisses := h.misses
  rcases lookup_cases h.agrees directory with
    ⟨hknown, hanswered, hleft⟩ | ⟨manifest, hunknown, hanswered, hleft⟩ | ⟨hunanswered, hleft⟩
  · rw [hleft] at hagrees ⊢
    constructor
    case agrees => exact hagrees
    case nodup => exact h.nodup
    case mem_iff => exact h.mem_concat_iff fun _ => hknown
    case calls => exact (Nat.add_right_comm _ _ _).trans hcalls
    case misses =>
      rw [refusals_concat_of_answered asked hanswered]
      exact hmisses
  · rw [hleft] at hagrees ⊢
    constructor
    case agrees => exact hagrees
    case nodup => exact List.nodup_cons.mpr ⟨hunknown, h.nodup⟩
    case mem_iff =>
      intro other
      rw [List.map_cons, List.mem_cons, h.mem_iff, List.mem_append, List.mem_singleton]
      constructor
      · rintro (rfl | ⟨hasked, hother⟩)
        · exact ⟨.inr rfl, hanswered⟩
        · exact ⟨.inl hasked, hother⟩
      · rintro ⟨hasked | rfl, hother⟩
        · exact .inr ⟨hasked, hother⟩
        · exact .inl rfl
    case calls => exact (Nat.add_assoc _ _ _).symm.trans hcalls
    case misses =>
      rw [refusals_concat_of_answered asked hanswered, hmisses]
      exact Nat.add_right_comm _ _ _
  · rw [hleft] at hagrees ⊢
    constructor
    case agrees => exact hagrees
    case nodup => exact h.nodup
    case mem_iff => exact h.mem_concat_iff fun hanswered => absurd hanswered hunanswered
    case calls => exact (Nat.add_assoc _ _ _).symm.trans hcalls
    case misses =>
      rw [refusals_concat_of_not_answered asked hunanswered, ← Nat.add_assoc]
      exact congrArg (· + 1) hmisses

theorem lookupAll (h : Knows tree asked cache) (directories : List Path) :
    Knows tree (asked ++ directories) (cache.lookupAll tree directories).2 := by
  induction directories generalizing asked cache with
  | nil => rwa [List.append_nil]
  | cons directory directories ih =>
    rw [List.append_cons]
    exact ih (h.lookup directory)

/-- A directory with an answer is stored once, however often it is looked up. -/
theorem size_eq (h : Knows tree asked cache) :
    cache.size = (asked.filter fun directory => Answered tree directory).dedup.length := by
  have hperm : (cache.entries.map Prod.fst).Perm
      (asked.filter fun directory => Answered tree directory).dedup := by
    rw [List.perm_ext_iff_of_nodup h.nodup (List.nodup_dedup _)]
    intro directory
    simp [h.mem_iff]
  rw [size, ← hperm.length_eq, List.length_map]

end Knows

theorem fst_lookupAll (h : cache.Agrees tree) (directories : List Path) :
    (lookupAll tree cache directories).1 = directories.map (Manifest.nearest? tree) := by
  induction directories generalizing cache with
  | nil => rfl
  | cons directory directories ih =>
    obtain ⟨hanswer, hagrees⟩ := h.lookup directory
    rw [lookupAll, List.map_cons, ← hanswer, ← ih hagrees]

end ManifestCache

/-! ### Compilations -/

/-- The cache after the modules of an import, also if the search for the manifest fails. -/
def Needed.cacheLeft (checkout : Checkout) (cache : ManifestCache) (loaded : List Load) :
    List String → ManifestCache
  | [] => cache
  | module :: modules =>
      if loaded.any fun load => load.module == module then
        cacheLeft checkout cache loaded modules
      else
        match checkout.location? cache module with
        | (.error _, after) => after
        | (.ok none, after) => cacheLeft checkout after loaded modules
        | (.ok (some location), after) =>
            cacheLeft checkout after
              (if location = module then loaded else ⟨module, location⟩ :: loaded) modules

/-- The cache after imports, also if the search for the manifest fails. -/
def Loaded.cacheLeft (checkout : Checkout) (loaded : Loaded) : List Stmt → ManifestCache
  | [] => loaded.cache
  | stmt :: imports =>
      match loaded.add checkout stmt with
      | .ok next => cacheLeft checkout next imports
      | .error _ =>
          Needed.cacheLeft checkout loaded.cache loaded.loads stmt.importedModules

open Compilation in
/-- The cache of a compilation. Without cases there are no imports that could use it. -/
def Compilation.cacheLeft (settings : Settings) (tree : FileTree) (source : String) :
    ManifestCache :=
  match casesFrom 0 {} (scan source settings.languages) with
  | (_, .error _) => {}
  | (checks, .ok cases) =>
      Loaded.cacheLeft ⟨tree, settings.filename, settings.output⟩ {}
        (Program.otherImports ⟨settings.title, cases, checks.imports⟩)

namespace Needed

variable {checkout : Checkout} {cache : ManifestCache} {loaded : List Load} {modules : List String}

/-- With the modules of an import, the cache is that of what they need. -/
theorem cacheLeft_eq {needed : Needed}
    (h : ofModules checkout cache loaded modules = .ok needed) :
    cacheLeft checkout cache loaded modules = needed.cache := by
  induction modules generalizing cache loaded needed with
  | nil =>
    cases h
    rfl
  | cons module modules ih =>
    rw [cacheLeft]
    cases first_of_ok h with
    | seen load mem same rest =>
      have hseen : loaded.any (fun load => load.module == module) = true :=
        List.any_eq_true.mpr ⟨load, mem, beq_iff_eq.mpr same⟩
      rw [if_pos hseen, ih rest]
    | foreign after fresh located rest =>
      have hfresh : ¬ loaded.any (fun load => load.module == module) = true := by simpa using fresh
      rw [if_neg hfresh, located]
      exact ih rest
    | mistaken after others fresh located rest result =>
      have hfresh : ¬ loaded.any (fun load => load.module == module) = true := by simpa using fresh
      rw [if_neg hfresh, located, result]
      simpa using ih rest
    | loaded after others location fresh apart located rest result =>
      have hfresh : ¬ loaded.any (fun load => load.module == module) = true := by simpa using fresh
      rw [if_neg hfresh, located, result]
      simpa [apart] using ih rest

/-- The modules of an import look up the directory of the document again and again. If the search
fails, the first lookup is the last one, and its fault is that of the import. -/
theorem exists_lookups {document : String} (hd : checkout.document = some document)
    (loaded : List Load) (modules : List String) (hc : cache.Agrees checkout.tree) :
    let directory := checkout.directoryOf document
    ∃ n, cacheLeft checkout cache loaded modules =
        (cache.lookupAll checkout.tree (List.replicate n directory)).2 ∧
      (Succeeds (ofModules checkout cache loaded modules) ∧
          (n = 0 ∨ ManifestCache.Answered checkout.tree directory) ∨
        n = 1 ∧ ∃ fault, ofModules checkout cache loaded modules = .error fault ∧
          Manifest.nearest? checkout.tree directory = .error fault) := by
  intro directory
  induction modules generalizing cache loaded with
  | nil => exact ⟨0, rfl, .inl ⟨⟨_, rfl⟩, .inl rfl⟩⟩
  | cons module modules ih =>
    cases hseen : loaded.any fun load => load.module == module with
    | true =>
      rw [cacheLeft, if_pos hseen, ofModules_of_loaded modules hseen]
      exact ih loaded hc
    | false =>
      obtain ⟨locate, hlocation⟩ := checkout.location?_eq cache hd module
      obtain ⟨hanswer, hagrees⟩ := hc.lookup directory
      rw [hanswer] at hlocation
      rw [cacheLeft, if_neg (Bool.eq_false_iff.mp hseen), hlocation]
      cases hnearest : Manifest.nearest? checkout.tree directory with
      | error fault =>
        rw [hnearest] at hlocation
        exact ⟨1, rfl, .inr ⟨rfl, fault, ofModules_of_fault hseen hlocation, rfl⟩⟩
      | ok manifest =>
        have hanswered : ManifestCache.Answered checkout.tree directory := ⟨manifest, hnearest⟩
        -- The other modules are behind a lookup with an answer.
        have hnext (others : List Load) :
            (∃ n, cacheLeft checkout (cache.lookup checkout.tree directory).2 others modules =
              (cache.lookupAll checkout.tree (List.replicate n directory)).2) ∧
            Succeeds (ofModules checkout (cache.lookup checkout.tree directory).2 others
              modules) := by
          obtain ⟨n, hn, ⟨hrest, -⟩ | ⟨-, fault, -, hfault⟩⟩ := ih others hagrees
          · exact ⟨⟨n + 1, hn⟩, hrest⟩
          · rw [hnearest] at hfault
            cases hfault
        rw [hnearest] at hlocation
        cases hlocate : locate manifest with
        | none =>
          rw [Except.map, hlocate] at hlocation
          obtain ⟨⟨n, hn⟩, hrest⟩ := hnext loaded
          refine ⟨n, by simpa [Except.map, hlocate] using hn, .inl ⟨?_, .inr hanswered⟩⟩
          rwa [ofModules_of_none modules hseen hlocation]
        | some location =>
          rw [Except.map, hlocate] at hlocation
          obtain ⟨⟨n, hn⟩, hrest⟩ :=
            hnext (if location = module then loaded else ⟨module, location⟩ :: loaded)
          refine ⟨n, by simpa [Except.map, hlocate] using hn, .inl ⟨?_, .inr hanswered⟩⟩
          by_cases hname : location = module
          · subst hname
            rw [if_pos rfl] at hrest
            rwa [ofModules_of_same modules hseen hlocation, succeeds_map]
          · rw [if_neg hname] at hrest
            rwa [ofModules_of_location modules hseen hname hlocation, succeeds_map]

end Needed

namespace ManifestCache

variable {tree : FileTree} {cache : ManifestCache}

theorem Agrees.lookupAll (h : cache.Agrees tree) (directories : List Path) :
    (cache.lookupAll tree directories).2.Agrees tree := by
  induction directories generalizing cache with
  | nil => exact h
  | cons directory directories ih => exact ih (h.lookup directory).2

/-- A directory that is looked up again only if the search has an answer is searched once. -/
theorem misses_lookupAll_replicate {directory : Path} {n : Nat}
    (h : n ≤ 1 ∨ Answered tree directory) :
    (lookupAll tree {} (List.replicate n directory)).2.misses ≤ 1 := by
  have hknows := (Knows.empty tree).lookupAll (List.replicate n directory)
  rw [List.nil_append] at hknows
  rw [hknows.misses, hknows.size_eq, refusals]
  by_cases hanswered : Answered tree directory
  · have hstored : (List.replicate n directory).filter (fun other => Answered tree other) =
        List.replicate n directory := by simp [hanswered]
    have hrefused : (List.replicate n directory).filter (fun other => ¬ Answered tree other) =
        [] := by simp [hanswered]
    have hone : (List.replicate n directory).dedup.length ≤ 1 := by
      cases n with
      | zero => simp
      | succ n => simp [List.replicate_dedup n.succ_ne_zero]
    rw [hstored, hrefused, List.length_nil]
    exact hone
  · have hstored : (List.replicate n directory).filter (fun other => Answered tree other) = [] := by
      simp [hanswered]
    have hrefused : (List.replicate n directory).filter (fun other => ¬ Answered tree other) =
        List.replicate n directory := by simp [hanswered]
    rw [hstored, hrefused, List.dedup_nil, List.length_nil, List.length_replicate, Nat.zero_add]
    exact h.resolve_right hanswered

end ManifestCache

namespace Loaded

variable {checkout : Checkout} {loaded : Loaded}

theorem exists_lookups {document : String} (hd : checkout.document = some document)
    (loaded : Loaded) (hc : loaded.cache.Agrees checkout.tree) (imports : List Stmt) :
    let directory := checkout.directoryOf document
    ∃ n, loaded.cacheLeft checkout imports =
        (loaded.cache.lookupAll checkout.tree (List.replicate n directory)).2 ∧
      (Succeeds (imports.foldlM (add checkout) loaded) ∧
          (n = 0 ∨ ManifestCache.Answered checkout.tree directory) ∨
        n = 1 ∧ ∃ fault, imports.foldlM (add checkout) loaded = .error fault ∧
          Manifest.nearest? checkout.tree directory = .error fault) := by
  intro directory
  induction imports generalizing loaded with
  | nil => exact ⟨0, rfl, .inl ⟨⟨_, rfl⟩, .inl rfl⟩⟩
  | cons stmt imports ih =>
    obtain ⟨n, hleft, hn⟩ := Needed.exists_lookups hd loaded.loads stmt.importedModules hc
    rw [cacheLeft, List.foldlM_cons, add_eq]
    rcases hn with ⟨⟨needed, hneeded⟩, hn⟩ | ⟨rfl, fault, hneeded, hfault⟩
    · rw [Needed.cacheLeft_eq hneeded] at hleft
      have hagrees := hc.lookupAll (List.replicate n directory)
      rw [← hleft] at hagrees
      let next : Loaded := {
        imports := loaded.imports ++ [(needed.loads, stmt)]
        located := loaded.located ++ needed.located
        cache := needed.cache }
      obtain ⟨m, hrest, hm⟩ := ih next hagrees
      refine ⟨n + m, ?_, ?_⟩
      · rw [hneeded, ← List.replicate_append_replicate, ManifestCache.snd_lookupAll_append, ← hleft]
        exact hrest
      · rw [hneeded]
        rcases hn with rfl | hanswered
        · rwa [Nat.zero_add]
        · rcases hm with ⟨hrest, -⟩ | ⟨-, fault, -, hfault⟩
          · exact .inl ⟨hrest, .inr hanswered⟩
          · obtain ⟨manifest, hmanifest⟩ := hanswered
            rw [hfault] at hmanifest
            cases hmanifest
    · rw [hneeded]
      exact ⟨1, hleft, .inr ⟨rfl, fault, rfl, hfault⟩⟩

theorem cacheLeft_of_ok {imports : List Stmt} {last : Loaded}
    (h : imports.foldlM (add checkout) loaded = .ok last) :
    loaded.cacheLeft checkout imports = last.cache := by
  induction imports generalizing loaded with
  | nil =>
    cases h
    rfl
  | cons stmt imports ih =>
    rw [List.foldlM_cons] at h
    rw [cacheLeft]
    cases hadd : loaded.add checkout stmt with
    | error fault =>
      rw [hadd] at h
      cases h
    | ok next =>
      rw [hadd] at h
      exact ih h

/-- Without a document, nothing is looked up. -/
theorem cacheLeft_of_none (h : checkout.document = none) (imports : List Stmt) :
    loaded.cacheLeft checkout imports = loaded.cache := by
  induction imports generalizing loaded with
  | nil => rfl
  | cons stmt imports ih =>
    rw [cacheLeft, add_eq, ofModules_eq h]
    exact ih

/-- Imports search for the manifest once at most. -/
theorem misses_cacheLeft (checkout : Checkout) (imports : List Stmt) :
    (cacheLeft checkout {} imports).misses ≤ 1 := by
  cases hd : checkout.document with
  | none =>
    rw [cacheLeft_of_none hd]
    exact Nat.zero_le 1
  | some document =>
    obtain ⟨n, hleft, hn⟩ := exists_lookups hd {}
      (ManifestCache.agrees_empty checkout.tree) imports
    rw [hleft]
    apply ManifestCache.misses_lookupAll_replicate
    rcases hn with ⟨-, rfl | hanswered⟩ | ⟨rfl, -⟩
    · exact .inl (Nat.zero_le 1)
    · exact .inr hanswered
    · exact .inl (Nat.le_refl 1)

/-- Imports fail with the fault of the one search. -/
theorem search_of_fault {imports : List Stmt} {fault : ManifestFault}
    (h : ofImports checkout {} imports = .error fault) :
    ∃ document, checkout.document = some document ∧
      Manifest.nearest? checkout.tree (checkout.directoryOf document) = .error fault ∧
      (cacheLeft checkout {} imports).misses = 1 := by
  cases hd : checkout.document with
  | none =>
    obtain ⟨loaded, hloaded, -⟩ := exists_ofImports hd {} imports
    rw [hloaded] at h
    cases h
  | some document =>
    obtain ⟨n, hleft, ⟨⟨last, hlast⟩, -⟩ | ⟨rfl, found, hfound, hsearch⟩⟩ :=
      exists_lookups hd {} (ManifestCache.agrees_empty checkout.tree) imports
    · rw [ofImports, hlast] at h
      cases h
    · rw [ofImports, hfound] at h
      cases h
      refine ⟨document, rfl, hsearch, ?_⟩
      rw [hleft]
      have hlookup : ManifestCache.lookup {} checkout.tree (checkout.directoryOf document) =
          (.error fault, { misses := 1 }) := ManifestCache.lookup_of_fault rfl hsearch
      simp [ManifestCache.lookupAll, hlookup]

end Loaded

namespace Compilation

theorem misses_cacheLeft (settings : Settings) (tree : FileTree) (source : String) :
    (cacheLeft settings tree source).misses ≤ 1 := by
  unfold cacheLeft
  split
  next => exact Nat.zero_le 1
  next => exact Loaded.misses_cacheLeft _ _

theorem fault_of_generate {checkout : Checkout} {program : Program} {fault : ManifestFault}
    (h : (generate checkout program).2 = .error (.manifest fault)) :
    Loaded.ofImports checkout {} program.otherImports = .error fault := by
  rcases generate_cases checkout program with ⟨_, hloaded, hg⟩ | ⟨_, -, ⟨_, hg⟩ | ⟨_, hg⟩⟩
  · cases h.symm.trans hg
    exact hloaded
  · cases h.symm.trans hg
  · cases h.symm.trans hg

/-- No sample fails over a manifest. -/
theorem casesFrom_ne_manifest (index : Nat) (checks : Checks) (samples : List Sample)
    (fault : ManifestFault) : (casesFrom index checks samples).2 ≠ .error (.manifest fault) := by
  induction samples generalizing index checks with
  | nil => exact fun h => by cases h
  | cons sample samples ih =>
    rw [casesFrom_cons]
    cases sample.parse (some (index : Int)) with
    | error reason => exact fun h => by cases h
    | ok body => exact fun h => ih _ _ (map_eq_error_iff.mp h)

section

variable {settings : Settings} {tree : FileTree} {source : String}

/-- A suite is generated with the cache of its compilation. -/
theorem cache_of_compile {compiled : Compiled}
    (h : (compile settings tree source).2 = .ok compiled) :
    compiled.loaded.cache = cacheLeft settings tree source := by
  have hcompile := snd_compile settings tree source
  rw [h] at hcompile
  unfold cacheLeft
  rcases hcases : casesFrom 0 {} (scan source settings.languages) with ⟨checks, fault | cases⟩
  · rw [hcases] at hcompile
    cases hcompile
  · rw [hcases] at hcompile
    exact (Loaded.cacheLeft_of_ok (ok_of_generate hcompile.symm).2).symm

/-- A compilation fails over the manifest with the fault of its one search. -/
theorem search_of_compile {fault : ManifestFault}
    (h : (compile settings tree source).2 = .error (.manifest fault)) :
    ∃ document, settings.filename = some document ∧
      Manifest.nearest? tree (Path.absolute tree.working document).parent = .error fault ∧
      (cacheLeft settings tree source).misses = 1 := by
  have hcompile := snd_compile settings tree source
  have hsample := casesFrom_ne_manifest 0 {} (scan source settings.languages) fault
  rw [h] at hcompile
  unfold cacheLeft
  rcases hcases : casesFrom 0 {} (scan source settings.languages) with ⟨checks, other | cases⟩
  · rw [hcases] at hcompile hsample
    cases hcompile
    exact absurd rfl hsample
  · rw [hcases] at hcompile
    exact Loaded.search_of_fault (fault_of_generate hcompile.symm)

end

end Compilation

/-- Lookups in a row answer as searches of their own, each of which reads the nearest manifest file.
The counters tell the calls, the directories with an answer and the searches in vain. A compilation
searches once at most, and fails over the manifest only with the fault of that search. -/
theorem lookups_refine (tree : FileTree) :
    (∀ directories : List Path,
      let run := ManifestCache.lookupAll tree {} directories
      run.1 = directories.map (Manifest.nearest? tree) ∧
        List.Forall₂ (Manifest.IsReading tree) directories run.1 ∧
        run.2.hits + run.2.misses = directories.length ∧
        run.2.size =
          (directories.filter fun directory => ManifestCache.Answered tree directory).dedup.length ∧
        run.2.misses = run.2.size +
          (directories.filter fun directory => ¬ ManifestCache.Answered tree directory).length) ∧
    ∀ settings source,
      (Compilation.cacheLeft settings tree source).misses ≤ 1 ∧
        (∀ compiled, (compile settings tree source).2 = .ok compiled →
          compiled.loaded.cache = Compilation.cacheLeft settings tree source) ∧
        ∀ fault, (compile settings tree source).2 = .error (.manifest fault) →
          ∃ document, settings.filename = some document ∧
            Manifest.nearest? tree (Path.absolute tree.working document).parent = .error fault ∧
            (Compilation.cacheLeft settings tree source).misses = 1 := by
  constructor
  · intro directories run
    have hanswers := ManifestCache.fst_lookupAll (ManifestCache.agrees_empty tree) directories
    have hknows := (ManifestCache.Knows.empty tree).lookupAll directories
    rw [List.nil_append] at hknows
    refine ⟨hanswers, ?_, hknows.calls, hknows.size_eq, hknows.misses⟩
    rw [hanswers, List.forall₂_map_right_iff, List.forall₂_same]
    exact fun directory _ => Manifest.isReading_nearest tree directory
  · intro settings source
    refine ⟨Compilation.misses_cacheLeft settings tree source, ?_, ?_⟩
    · exact fun compiled h => Compilation.cache_of_compile h
    · exact fun fault h => Compilation.search_of_compile h

namespace BrokenManifest

/-- A manifest that cannot be read lies below one that can, beside a directory without any. -/
def tree : FileTree where
  working := ⟨1, ["work"]⟩
  nodes := [
    (["work"], .directory),
    (["work", "broken"], .directory),
    (["work", "docs"], .directory),
    (["work", "pyproject.toml"],
      .file ("[project]\nname = \"foo\"\n".toList.map Char.toNat)),
    (["work", "broken", "pyproject.toml"], .file ("[project".toList.map Char.toNat))]

def directories : List Path :=
  [⟨1, ["work", "docs"]⟩, ⟨1, ["work", "broken"]⟩, ⟨1, []⟩, ⟨1, ["work", "docs"]⟩,
    ⟨1, ["work", "broken"]⟩]

def settings : Settings where
  name := none
  filename := some "broken/README.md"
  output := none
  languages := ["python+test"]
  verbose := false

def source : String := "```python+test\nimport foo, foo.sub\nimport bar\n```\n"

end BrokenManifest

open BrokenManifest in
theorem lookups_refine_brokenManifest :
    (ManifestCache.lookupAll tree {} directories).2.size = 2 ∧
      (ManifestCache.lookupAll tree {} directories).2.misses = 4 ∧
      ∃ fault, (compile settings tree source).2 = .error (.manifest fault) ∧
        (Compilation.cacheLeft settings tree source).misses = 1 := by
  obtain ⟨hlookups, hcompilations⟩ := lookups_refine tree
  obtain ⟨-, -, -, hsize, hmisses⟩ := hlookups directories
  have hsize : (ManifestCache.lookupAll tree {} directories).2.size = 2 :=
    hsize.trans (by decide +kernel)
  refine ⟨hsize, ?_, ?_⟩
  · rw [hmisses, hsize]
    decide +kernel
  · have hfails : (match (compile settings tree source).2 with
        | .error (.manifest _) => true
        | _ => false) = true := by
      rw [snd_compile]
      decide +kernel
    split at hfails
    next fault hfault =>
      obtain ⟨document, -, -, hone⟩ := (hcompilations settings source).2.2 fault hfault
      exact ⟨fault, hfault, hone⟩
    next => cases hfails

end DocSuite
