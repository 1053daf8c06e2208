import DocSuite.Import.Loading
import DocSuite.Proofs.Manifest
import DocSuite.Proofs.Path
import DocSuite.Proofs.Result

/-!
Locations of modules, and the roots that are read from them. Main statement: the root that is read
from the location of any module of a package is the directory of its manifest, from wherever the
location is told.
-/
namespace DocSuite

open DocSuite.Text

/-! ### Names of modules -/

namespace Text

def IsIdentifier (name : String) : Prop := name ≠ "" ∧ identifierFault? name.toList = none

instance (name : String) : Decidable (IsIdentifier name) :=
  inferInstanceAs (Decidable (name ≠ "" ∧ identifierFault? name.toList = none))

theorem IsIdentifier.not_mem {name : String} (h : IsIdentifier name) {c : Char}
    (hstart : isIdentifierStart c = false) (hcontinue : isIdentifierContinue c = false) :
    c ∉ name.toList := by
  obtain ⟨hne, hfault⟩ := h
  cases hcs : name.toList with
  | nil => exact absurd (String.toList_eq_nil_iff.mp hcs) hne
  | cons first rest =>
    rw [hcs, identifierFault?] at hfault
    split at hfault
    next hfirst =>
      rw [List.findSome?_eq_none_iff] at hfault
      intro hc
      rcases List.mem_cons.mp hc with rfl | hrest
      · rw [hstart] at hfirst
        cases hfirst
      · obtain ⟨i, hi, hget⟩ := List.mem_iff_getElem.mp hrest
        have hmem : (c, 1 + i) ∈ rest.zipIdx 1 := by
          simp [List.mk_mem_zipIdx_iff_le_and_getElem?_sub, ← hget, hi]
        have hnone := hfault _ hmem
        simp [hcontinue] at hnone
    next => cases hfault

theorem IsIdentifier.noDot {name : String} (h : IsIdentifier name) : '.' ∉ name.toList :=
  h.not_mem (by decide) (by decide)

theorem IsIdentifier.isName {name : String} (h : IsIdentifier name) : IsName name where
  nonempty := h.1
  ne_here := fun he => h.noDot (he ▸ List.mem_cons_self)
  noSlash := h.not_mem (by decide) (by decide)
  ne_parent := fun he => h.noDot (he ▸ List.mem_cons_self)

end Text

/-- The name of a module that some names lead to, from a package down. -/
def dotted (package : String) (below : List String) : String := ".".intercalate (package :: below)

theorem toList_dotted (package : String) (below : List String) :
    (dotted package below).toList = ['.'].intercalate ((package :: below).map String.toList) :=
  String.toList_intercalate

theorem Load.parts_dotted {package : String} {below : List String} (location : String)
    (hp : '.' ∉ package.toList) (hb : ∀ part ∈ below, '.' ∉ part.toList) :
    (Load.mk (dotted package below) location).parts = package :: below := by
  have hparts : ∀ part ∈ (package :: below).map String.toList, '.' ∉ part :=
    List.forall_mem_map.mpr (List.forall_mem_cons.mpr ⟨hp, hb⟩)
  rw [Load.parts, toList_dotted, splitAt_intercalate (by simp) hparts, map_ofList_toList]

theorem Load.top_dotted {package : String} {below : List String} (location : String)
    (hp : '.' ∉ package.toList) (hb : ∀ part ∈ below, '.' ∉ part.toList) :
    (Load.mk (dotted package below) location).top = package := by
  rw [Load.top, Load.parts_dotted location hp hb, List.headD_cons]

/-! ### Locations -/

namespace Path

/-- What the text of a relative path is made of. -/
def textSteps (names : List String) : List String := if names = [] then ["."] else names

theorem textSteps_ne_nil (names : List String) : textSteps names ≠ [] := by
  unfold textSteps
  split
  next => simp
  next h => exact h

theorem text_relative (target start : Path) :
    (relative target start).text = "/".intercalate (textSteps (relative target start).names) := by
  have hslashes : (relative target start).slashes = 0 := rfl
  generalize relative target start = path at hslashes
  obtain ⟨slashes, names⟩ := path
  cases hslashes
  cases names <;> simp [text, textSteps]

theorem isStep_of_mem_relative {target : Path} (h : target.Rooted) (start : Path) :
    ∀ name ∈ (relative target start).names, IsStep name := by
  intro name hn
  rcases List.mem_append.mp hn with hup | hdown
  · rw [List.eq_of_mem_replicate hup]
    exact ⟨by decide, by decide, by decide⟩
  · exact (h.names name (List.mem_of_mem_drop hdown)).toIsStep

theorem ofText_relative {target : Path} (h : target.Rooted) (start : Path) {below : List String}
    (hb : ∀ name ∈ below, IsName name) :
    ofText ("/".intercalate (textSteps (relative target start).names ++ below)) =
      ⟨0, (relative target start).names ++ below⟩ := by
  have hsteps := isStep_of_mem_relative h start
  generalize (relative target start).names = names at hsteps
  have hkeep : below.filter (· ≠ ".") = below :=
    List.filter_eq_self.mpr fun name hn => by simpa using (hb name hn).ne_here
  have hfilter : (textSteps names).filter (· ≠ ".") = names := by
    unfold textSteps
    split
    next hnil =>
      subst hnil
      rfl
    next => exact List.filter_eq_self.mpr fun name hn => by simpa using (hsteps name hn).ne_here
  have hplain : ∀ text ∈ textSteps names ++ below, text ≠ "" ∧ '/' ∉ text.toList := by
    intro text ht
    rcases List.mem_append.mp ht with hstep | hbelow
    · unfold textSteps at hstep
      split at hstep
      next =>
        rw [List.mem_singleton.mp hstep]
        exact ⟨by decide, by decide⟩
      next => exact ⟨(hsteps text hstep).nonempty, (hsteps text hstep).noSlash⟩
    · exact ⟨(hb text hbelow).nonempty, (hb text hbelow).noSlash⟩
  rw [ofText_intercalate hplain, List.filter_append, hfilter, hkeep]

end Path

namespace Checkout

theorem modulesBelow?_dotted (package : String) {below : List String} (hne : below ≠ [])
    (hb : ∀ part ∈ below, '.' ∉ part.toList) :
    modulesBelow? package (dotted package below) = some ("/".intercalate below) := by
  have hslash : "/".toList = ['/'] := rfl
  have hdots : ∀ part ∈ below.map String.toList, '.' ∉ part := List.forall_mem_map.mpr hb
  have hmodule : (dotted package below).toList =
      (package.toList ++ ['.']) ++ ['.'].intercalate (below.map String.toList) := by
    obtain ⟨first, rest, rfl⟩ := List.exists_cons_of_ne_nil hne
    rw [toList_dotted, List.map_cons, List.map_cons, List.intercalate_cons_cons]
  have hprefix : (package.toList ++ ['.']).isPrefixOf (dotted package below).toList = true := by
    rw [hmodule, List.isPrefixOf_iff_prefix]
    exact List.prefix_append _ _
  simp only [modulesBelow?, hprefix, if_true]
  rw [hmodule, List.drop_left, map_intercalate hdots, ← hslash, ← String.toList_intercalate,
    String.ofList_toList]

theorem dotted_ne (package : String) {below : List String} (hne : below ≠ []) :
    dotted package below ≠ package := by
  obtain ⟨first, rest, rfl⟩ := List.exists_cons_of_ne_nil hne
  intro he
  have hlength := congrArg String.length he
  simp [dotted, String.length_append] at hlength
  have hdot : ".".length = 1 := rfl
  omega

theorem locationIn?_dotted (manifest : Manifest) (start : Path) {below : List String}
    (hb : ∀ part ∈ below, '.' ∉ part.toList) :
    locationIn? manifest start (dotted manifest.importName below) =
      some ("/".intercalate
        (Path.textSteps (Path.relative manifest.directory start).names ++ below)) := by
  simp only [locationIn?, Path.text_relative]
  by_cases hnil : below = []
  · subst hnil
    rw [dotted, String.intercalate_singleton, if_pos rfl, List.append_nil]
  · rw [if_neg (dotted_ne _ hnil), modulesBelow?_dotted _ hnil hb, Option.map_some,
      String.intercalate_append_of_ne_nil (Path.textSteps_ne_nil _) hnil]

/-- The file from which locations are told. -/
def anchorOr (checkout : Checkout) (document : String) : String :=
  checkout.anchor.getD document

/-- A module is located by the manifest that is found for the directory of the document. -/
theorem location?_of_lookup {checkout : Checkout} {document : String} {cache : ManifestCache}
    {manifest : Manifest} (hd : checkout.document = some document)
    (hm : (cache.lookup checkout.tree (checkout.directoryOf document)).1 = .ok (some manifest))
    (module : String) :
    checkout.location? cache module =
      (.ok (locationIn? manifest (checkout.directoryOf (checkout.anchorOr document)) module),
        (cache.lookup checkout.tree (checkout.directoryOf document)).2) := by
  cases hl : cache.lookup checkout.tree (checkout.directoryOf document) with
  | mk answer after =>
    rw [hl] at hm
    subst hm
    simp only [location?, hd, hl, anchorOr]
    cases checkout.anchor <;> rfl

end Checkout

/-! ### Roots -/

namespace Load

theorem above_eq (path : Path) (n : Nat) :
    above path n = { path with names := path.names.take (path.names.length - n) } := by
  induction n generalizing path with
  | zero => simp [above]
  | succ n ih =>
    rw [above, ih, Path.parent, List.length_dropLast, List.dropLast_eq_take, List.take_take]
    congr 2
    omega

theorem above_append (path : Path) (names below : List String) :
    above { path with names := names ++ below } below.length = { path with names } := by
  rw [above_eq, List.length_append, Nat.add_sub_cancel, List.take_left]

theorem root_of_location {manifest : Manifest} {working : Path} {anchor : String}
    {below : List String} (hm : manifest.directory.Rooted)
    (ha : (Path.absolute working anchor).Rooted) (hb : ∀ part ∈ below, IsIdentifier part)
    {location : String}
    (hl : Checkout.locationIn? manifest (Path.absolute working anchor).parent
      (dotted manifest.importName below) = some location) :
    (Load.mk (dotted manifest.importName below) location).root working anchor =
      manifest.directory := by
  have hnames : ∀ name ∈ below, IsName name := fun name hn => (hb name hn).isName
  have hdots : ∀ part ∈ below, '.' ∉ part.toList := fun part hpart => (hb part hpart).noDot
  rw [Checkout.locationIn?_dotted manifest _ hdots, Option.some.injEq] at hl
  rw [root, parts_dotted location manifest.dot_not_mem_importName hdots, List.length_cons,
    Nat.add_sub_cancel]
  simp only [← hl]
  rw [Path.ofText_relative hm _ hnames, Path.normal_relative ha.parent hm hnames, above_append]

end Load

/-- The location of any module of a package is read as the directory of its manifest, whatever file
it is told from. So the same file of the package is looked for whatever module is loaded. -/
theorem location_root {checkout : Checkout} {document : String} {cache : ManifestCache}
    {manifest : Manifest} {below : List String} (hd : checkout.document = some document)
    (hdocument : (Path.absolute checkout.tree.working document).Rooted)
    (hanchor : (Path.absolute checkout.tree.working (checkout.anchorOr document)).Rooted)
    (hm : (cache.lookup checkout.tree (checkout.directoryOf document)).1 = .ok (some manifest))
    (habove : manifest.directory ∈ (checkout.directoryOf document).withParents)
    (hb : ∀ part ∈ below, IsIdentifier part) :
    ∃ location, (checkout.location? cache (dotted manifest.importName below)).1 =
        .ok (some location) ∧
      let load : Load := ⟨dotted manifest.importName below, location⟩
      let root := load.root checkout.tree.working (checkout.anchorOr document)
      root = manifest.directory ∧
        findPackage? checkout.tree root load.top =
          findPackage? checkout.tree manifest.directory manifest.importName := by
  have hrooted : manifest.directory.Rooted := hdocument.parent.of_mem_withParents habove
  have hdots : ∀ part ∈ below, '.' ∉ part.toList := fun part hpart => (hb part hpart).noDot
  have hl := Checkout.locationIn?_dotted manifest
    (checkout.directoryOf (checkout.anchorOr document)) hdots
  refine ⟨_, by rw [Checkout.location?_of_lookup hd hm, hl], ?_⟩
  have hroot := Load.root_of_location hrooted hanchor hb hl
  simp only [hroot, Load.top_dotted _ manifest.dot_not_mem_importName hdots, and_self]

/-- A document below the directory of its package, whose suite lies in another directory. -/
def guideCheckout : Checkout where
  tree := {
    working := ⟨1, ["work"]⟩
    nodes := [
      (["work"], .directory),
      (["work", "tools"], .directory),
      (["work", "tools", "pyproject.toml"],
        .file ("[project]\nname = \"Doc-Tools\"\n".toList.map Char.toNat))] }
  document := some "/work/tools/docs/guide.md"
  anchor := some "/out/test_guide.py"

def guideManifest : Manifest := ⟨"Doc-Tools", ⟨1, ["work", "tools", "pyproject.toml"]⟩⟩

theorem location_root_otherDirectory :
    ∃ location, (guideCheckout.location? {} (dotted guideManifest.importName ["sub", "mod"])).1 =
        .ok (some location) ∧
      let load : Load := ⟨dotted guideManifest.importName ["sub", "mod"], location⟩
      let root := load.root ⟨1, ["work"]⟩ "/out/test_guide.py"
      root = ⟨1, ["work", "tools"]⟩ ∧
        findPackage? guideCheckout.tree root load.top =
          findPackage? guideCheckout.tree ⟨1, ["work", "tools"]⟩ guideManifest.importName :=
  @location_root guideCheckout "/work/tools/docs/guide.md" {} guideManifest ["sub", "mod"] rfl
    (Path.rooted_absolute (.inl (by decide))) (Path.rooted_absolute (.inl (by decide)))
    (by decide +kernel) (by decide) (by decide)

end DocSuite
