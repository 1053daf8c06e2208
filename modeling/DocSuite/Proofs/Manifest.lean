import DocSuite.Manifest.Cache
import DocSuite.Proofs.Utf8

/-!
The names under which packages are imported, and manifests that were looked up. Main statement: no
package is imported under a name of several parts or under a name that starts with two underscores.
-/
namespace DocSuite

open DocSuite.Text

/-! ### Lower case -/

namespace Text

theorem ascii_forall {P : Char → Prop} (h : ∀ n < 128, P (Char.ofNat n)) {c : Char}
    (hc : c.toNat < 128) : P c := by
  have hn := h c.toNat hc
  rwa [Char.ofNat_toNat] at hn

/-- Of ASCII, only the letters. -/
def IsLetterOrBeyond (c : Char) : Prop := 128 ≤ c.toNat ∨ c.isAlpha = true

instance (c : Char) : Decidable (IsLetterOrBeyond c) :=
  inferInstanceAs (Decidable (_ ∨ _))

/-- The small forms of the run are characters beyond ASCII, or there is only one, a letter. -/
def CaseRun.IsPlain (run : CaseRun) : Prop :=
  let last := run.image + (run.last - run.first)
  (128 ≤ run.image ∧ last < 0xD800) ∨ (0xDFFF < run.image ∧ last < 0x110000) ∨
    (run.last = run.first ∧ (Char.ofNat run.image).isAlpha = true)

instance (run : CaseRun) : Decidable run.IsPlain :=
  inferInstanceAs (Decidable (_ ∨ _ ∨ _))

theorem lowerRuns_plain : ∀ run ∈ lowerRuns, run.IsPlain := by decide +kernel

theorem CaseRun.IsPlain.image {run : CaseRun} (h : run.IsPlain) {code image : Nat}
    (hi : run.image? code = some image) : IsLetterOrBeyond (Char.ofNat image) := by
  rw [CaseRun.image?] at hi
  split at hi
  next hrun =>
    obtain ⟨hfirst, hlast, -⟩ := hrun
    have hdistance : image = run.image + (code - run.first) := (Option.some.inj hi).symm
    have hbeyond (hvalid : image.isValidChar) (h128 : 128 ≤ image) :
        IsLetterOrBeyond (Char.ofNat image) := .inl (by rwa [toNat_ofNat hvalid])
    rcases h with ⟨h128, hend⟩ | ⟨hstart, hend⟩ | ⟨hone, halpha⟩
    · exact hbeyond (.inl (by omega)) (by omega)
    · exact hbeyond (.inr ⟨by omega, by omega⟩) (by omega)
    · obtain rfl : image = run.image := by omega
      exact .inr halpha
  next => cases hi

/-- In lower case, characters of ASCII that are not letters come from themselves only. -/
theorem lowerChar_image (c : Char) : lowerChar c ≠ [] ∧
    ∀ d ∈ lowerChar c, d = c ∨ IsLetterOrBeyond d := by
  unfold lowerChar
  split
  next hascii =>
    have hletter : c.toLower = c ∨ IsLetterOrBeyond c.toLower :=
      @ascii_forall (fun c => c.toLower = c ∨ IsLetterOrBeyond c.toLower) (by decide +kernel)
        c hascii
    exact ⟨by simp, by simpa using hletter⟩
  next =>
    have hdotted : IsLetterOrBeyond 'i' ∧ IsLetterOrBeyond '\u0307' := by decide
    split
    next => exact ⟨by simp, by simp [hdotted]⟩
    next =>
      split
      next image hfound =>
        obtain ⟨run, hrun, himage⟩ := List.exists_of_findSome?_eq_some hfound
        have hletter := (lowerRuns_plain run hrun).image himage
        exact ⟨by simp, fun d hd => .inr (List.mem_singleton.mp hd ▸ hletter)⟩
      next => exact ⟨by simp, fun d hd => .inl (List.mem_singleton.mp hd)⟩

/-- What the first character of a text becomes in lower case. -/
theorem lowerFrom_cons (before : List Char) (c : Char) (cs : List Char) :
    ∃ image, lowerFrom before (c :: cs) = image ++ lowerFrom (c :: before) cs ∧ image ≠ [] ∧
      ∀ d ∈ image, d = c ∨ IsLetterOrBeyond d := by
  refine ⟨_, rfl, ?_⟩
  split
  next =>
    have hsigma : IsLetterOrBeyond 'ς' ∧ IsLetterOrBeyond 'σ' := by decide
    split
    next => exact ⟨by simp, by simp [hsigma]⟩
    next => exact ⟨by simp, by simp [hsigma]⟩
  next => exact lowerChar_image c

section

variable {before cs rest : List Char} {c : Char} (hc : ¬ IsLetterOrBeyond c)

include hc

theorem mem_of_mem_lowerFrom (h : c ∈ lowerFrom before cs) : c ∈ cs := by
  induction cs generalizing before with
  | nil => cases h
  | cons first cs ih =>
    obtain ⟨image, himage, -, hfirst⟩ := lowerFrom_cons before first cs
    rw [himage] at h
    rcases List.mem_append.mp h with hi | hr
    · rw [(hfirst c hi).resolve_right hc]
      exact List.mem_cons_self
    · exact List.mem_cons_of_mem _ (ih hr)

theorem cons_of_lowerFrom_cons (h : lowerFrom before cs = c :: rest) :
    ∃ others, cs = c :: others := by
  cases cs with
  | nil => cases h
  | cons first others =>
    obtain ⟨image, himage, hne, hfirst⟩ := lowerFrom_cons before first others
    obtain ⟨d, ds, rfl⟩ := List.exists_cons_of_ne_nil hne
    rw [himage, List.cons_append, List.cons.injEq] at h
    obtain ⟨rfl, -⟩ := h
    exact ⟨others, by rw [(hfirst d List.mem_cons_self).resolve_right hc]⟩

end

theorem lowerFrom_underscore (before cs : List Char) :
    lowerFrom before ('_' :: cs) = '_' :: lowerFrom ('_' :: before) cs := rfl

end Text

/-! ### Names of packages -/

namespace Manifest

theorem dot_not_mem_joinSeparators (inRun : Bool) (cs : List Char) :
    '.' ∉ joinSeparators inRun cs := by
  induction cs generalizing inRun with
  | nil => simp [joinSeparators]
  | cons c cs ih =>
    rw [joinSeparators]
    split
    next hc =>
      split
      · exact ih true
      · simpa using ih true
    next hc =>
      have hdot : '.' ≠ c := by
        rintro rfl
        exact hc rfl
      simpa [hdot] using ih false

theorem joinSeparators_inRun (cs rest : List Char) : joinSeparators true cs ≠ '_' :: rest := by
  induction cs with
  | nil => simp [joinSeparators]
  | cons c cs ih =>
    rw [joinSeparators]
    split
    next => simpa using ih
    next hc =>
      intro he
      rw [List.cons.injEq] at he
      exact hc (he.1 ▸ rfl)

/-- Separators in a row become one underscore. -/
theorem joinSeparators_start (cs rest : List Char) :
    joinSeparators false cs ≠ '_' :: '_' :: rest := by
  cases cs with
  | nil => simp [joinSeparators]
  | cons c cs =>
    rw [joinSeparators]
    split
    next =>
      simp only [Bool.false_eq_true, if_false]
      exact fun he => joinSeparators_inRun cs rest (List.cons.inj he).2
    next hc =>
      intro he
      rw [List.cons.injEq] at he
      exact hc (he.1 ▸ rfl)

theorem dot_not_mem_importName (manifest : Manifest) : '.' ∉ manifest.importName.toList := by
  rw [importName, importNameOf, String.toList_ofList]
  exact fun h => dot_not_mem_joinSeparators false _ (mem_of_mem_lowerFrom (by decide) h)

theorem importName_start (manifest : Manifest) (rest : List Char) :
    manifest.importName.toList ≠ '_' :: '_' :: rest := by
  rw [importName, importNameOf, String.toList_ofList, lower]
  intro h
  obtain ⟨others, hothers⟩ := cons_of_lowerFrom_cons (by decide) h
  rw [hothers, lowerFrom_underscore, List.cons.injEq] at h
  obtain ⟨-, h⟩ := h
  obtain ⟨others, rfl⟩ := cons_of_lowerFrom_cons (by decide) h
  exact joinSeparators_start _ _ hothers

end Manifest

/-! ### Manifests that were looked up -/

namespace ManifestCache

/-- The answers in the cache are those that the tree gives. -/
def Agrees (cache : ManifestCache) (tree : FileTree) : Prop :=
  ∀ directory manifest, cache.entries.lookup directory = some manifest →
    Manifest.nearest? tree directory = .ok manifest

theorem agrees_empty (tree : FileTree) : ManifestCache.Agrees {} tree := by
  intro directory manifest h
  cases h

variable {cache : ManifestCache} {tree : FileTree}

theorem Agrees.lookup (h : cache.Agrees tree) (directory : Path) :
    (cache.lookup tree directory).1 = Manifest.nearest? tree directory ∧
      (cache.lookup tree directory).2.Agrees tree := by
  unfold ManifestCache.lookup
  split
  next manifest hentry => exact ⟨(h directory manifest hentry).symm, h⟩
  next =>
    split
    next manifest hnearest =>
      refine ⟨hnearest.symm, fun other answer hentry => ?_⟩
      rw [List.lookup_cons] at hentry
      split at hentry
      next hsame =>
        rw [eq_of_beq hsame, hnearest, Option.some.inj hentry]
      next => exact h other answer hentry
    next fault hnearest => exact ⟨hnearest.symm, h⟩

end ManifestCache

end DocSuite
