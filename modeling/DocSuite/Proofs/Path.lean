import DocSuite.Path
import DocSuite.Proofs.Split

/-!
Directories and the ways between them. Main statement: the relative path from one directory to
another, with some names behind it, leads from the first to these names below the second.
-/
namespace DocSuite

open DocSuite.Text

/-- A text that stands between two slashes of a path and means a step. -/
structure IsStep (name : String) : Prop where
  nonempty : name ≠ ""
  ne_here : name ≠ "."
  noSlash : '/' ∉ name.toList

/-- The name of a file or a directory. -/
structure IsName (name : String) : Prop extends IsStep name where
  ne_parent : name ≠ Path.parentName

namespace Path

/-- A path from the root, behind a single slash and without detours. -/
structure Rooted (path : Path) : Prop where
  slashes : path.slashes = 1
  names : ∀ name ∈ path.names, IsName name

/-! ### Steps without detours -/

section

variable {rooted : Bool} {before names : List String}

theorem normalNames_cons {name : String} (h : name ≠ parentName) (before names : List String) :
    normalNames rooted before (name :: names) = normalNames rooted (name :: before) names := by
  cases before <;> simp [normalNames, h]

theorem normalNames_back {last : String} (h : last ≠ parentName) (before names : List String) :
    normalNames rooted (last :: before) (parentName :: names) =
      normalNames rooted before names := by
  simp [normalNames, h]

/-- No step leads back from the root. -/
theorem normalNames_root (names : List String) :
    normalNames true [] (parentName :: names) = normalNames true [] names := by
  simp [normalNames]

theorem normalNames_append (h : ∀ name ∈ names, name ≠ parentName) (rest : List String) :
    normalNames rooted before (names ++ rest) =
      normalNames rooted (names.reverse ++ before) rest := by
  induction names generalizing before with
  | nil => rfl
  | cons name names ih =>
    rw [List.forall_mem_cons] at h
    rw [List.cons_append, normalNames_cons h.1, ih h.2, List.reverse_cons, List.append_assoc,
      List.singleton_append]

theorem normalNames_of_names (h : ∀ name ∈ names, name ≠ parentName) :
    normalNames rooted before names = before.reverse ++ names := by
  have hn := @normalNames_append rooted before names h []
  rw [List.append_nil] at hn
  rw [hn, normalNames, List.reverse_append, List.reverse_reverse]

theorem normalNames_parents (h : ∀ name ∈ before, name ≠ parentName) {n : Nat}
    (hn : n ≤ before.length) (rest : List String) :
    normalNames rooted before (List.replicate n parentName ++ rest) =
      normalNames rooted (before.drop n) rest := by
  induction n generalizing before with
  | zero => rfl
  | succ n ih =>
    cases before with
    | nil => simp at hn
    | cons last before =>
      rw [List.forall_mem_cons] at h
      rw [List.replicate_succ, List.cons_append, normalNames_back h.1]
      exact ih h.2 (Nat.le_of_succ_le_succ hn)

/-- From the root, steps back leave nothing behind. -/
theorem isName_of_mem_normalNames (hb : ∀ name ∈ before, IsName name)
    (hn : ∀ name ∈ names, IsStep name) : ∀ name ∈ normalNames true before names, IsName name := by
  induction names generalizing before with
  | nil =>
    intro name hname
    exact hb name (List.mem_reverse.mp hname)
  | cons first names ih =>
    rw [List.forall_mem_cons] at hn
    by_cases hparent : first = parentName
    · subst hparent
      cases before with
      | nil =>
        rw [normalNames_root]
        exact ih (by simp) hn.2
      | cons last before =>
        rw [List.forall_mem_cons] at hb
        rw [normalNames_back hb.1.ne_parent]
        exact ih hb.2 hn.2
    · rw [normalNames_cons hparent]
      exact ih (List.forall_mem_cons.mpr ⟨⟨hn.1, hparent⟩, hb⟩) hn.2

end

/-! ### Relative paths -/

section

variable {as bs : List String}

theorem commonLength_le_left (as bs : List String) : commonLength as bs ≤ as.length := by
  fun_induction commonLength as bs with
  | case1 as b bs ih => simpa using ih
  | case2 => simp
  | case3 => simp

theorem take_commonLength (as bs : List String) :
    as.take (commonLength as bs) = bs.take (commonLength as bs) := by
  fun_induction commonLength as bs with
  | case1 as b bs ih => rw [List.take_succ_cons, List.take_succ_cons, ih]
  | case2 => rfl
  | case3 => rfl

end

theorem normal_relative {start target : Path} (hs : start.Rooted) (ht : target.Rooted)
    {below : List String} (hb : ∀ name ∈ below, IsName name) :
    (start.inDirectory ⟨0, (relative target start).names ++ below⟩).normal =
      { target with names := target.names ++ below } := by
  have hslashes : start.slashes = target.slashes := hs.slashes.trans ht.slashes.symm
  have hparent {names : List String} (h : ∀ name ∈ names, IsName name) :
      ∀ name ∈ names, name ≠ parentName := fun name hn => (h name hn).ne_parent
  let common := commonLength start.names target.names
  have hcommon : common ≤ start.names.length := commonLength_le_left _ _
  have hdown : ∀ name ∈ target.names.drop common ++ below, name ≠ parentName := by
    intro name hn
    rcases List.mem_append.mp hn with hdrop | hbelow
    · exact hparent ht.names name (List.mem_of_mem_drop hdrop)
    · exact hparent hb name hbelow
  have hup : start.names.reverse.drop (start.names.length - common) =
      (start.names.take common).reverse := by
    rw [List.reverse_take]
  -- Down to the start, up to where the ways part, and down again.
  have hnames : normalNames true [] (start.names ++ ((relative target start).names ++ below)) =
      target.names ++ below := by
    calc normalNames true [] (start.names ++ ((relative target start).names ++ below))
      _ = normalNames true start.names.reverse
            (List.replicate (start.names.length - common) parentName ++
              (target.names.drop common ++ below)) := by
          rw [normalNames_append (hparent hs.names), List.append_nil, relative, List.append_assoc]
      _ = normalNames true (start.names.take common).reverse
            (target.names.drop common ++ below) := by
          rw [normalNames_parents, hup]
          · exact fun name hn => hparent hs.names name (List.mem_reverse.mp hn)
          · rw [List.length_reverse]
            omega
      _ = target.names.take common ++ (target.names.drop common ++ below) := by
          rw [normalNames_of_names hdown, List.reverse_reverse, take_commonLength]
      _ = target.names ++ below := by
          rw [← List.append_assoc, List.take_append_drop]
  have habsolute : isAbsolute { start with names := start.names ++
      ((relative target start).names ++ below) } = true := by
    simp [isAbsolute, hs.slashes]
  simp only [inDirectory, isAbsolute, bne_self_eq_false, Bool.false_eq_true, if_false, normal]
  simp only [isAbsolute] at habsolute
  rw [habsolute, hnames, hslashes]

/-! ### Texts of paths -/

theorem isStep_of_mem_namesOf {text : List Char} : ∀ name ∈ namesOf text, IsStep name := by
  intro name hn
  simp only [namesOf, List.mem_map, List.mem_filter, Bool.and_eq_true, Bool.not_eq_true',
    List.isEmpty_eq_false_iff, bne_iff_ne] at hn
  obtain ⟨cs, ⟨hsplit, hne, hdot⟩, rfl⟩ := hn
  refine ⟨?_, ?_, ?_⟩
  · simpa [← String.toList_inj] using hne
  · simpa [← String.toList_inj] using hdot
  · simpa using not_mem_of_mem_splitAt cs hsplit

/-- Texts between slashes are the names of a path, but for those that mean no step. -/
theorem ofText_intercalate {texts : List String}
    (h : ∀ text ∈ texts, text ≠ "" ∧ '/' ∉ text.toList) :
    ofText ("/".intercalate texts) = ⟨0, texts.filter (· ≠ ".")⟩ := by
  have hslash : "/".toList = ['/'] := rfl
  have hslashes : slashesOf ("/".intercalate texts).toList = 0 := by
    cases texts with
    | nil => rfl
    | cons text rest =>
      obtain ⟨hne, hnot⟩ := h text List.mem_cons_self
      obtain ⟨c, cs, hc⟩ := List.exists_cons_of_ne_nil (mt String.toList_eq_nil_iff.mp hne)
      have hfirst : ∃ others, ("/".intercalate (text :: rest)).toList = c :: others := by
        cases rest <;> simp [hc]
      obtain ⟨others, hothers⟩ := hfirst
      have hcs : c ≠ '/' := by
        rintro rfl
        exact hnot (hc ▸ List.mem_cons_self)
      simp [hothers, slashesOf, hcs]
  have hnames : namesOf ("/".intercalate texts).toList = texts.filter (· ≠ ".") := by
    by_cases hnil : texts = []
    · subst hnil
      rfl
    · have hparts : ∀ part ∈ texts.map String.toList, '/' ∉ part :=
        List.forall_mem_map.mpr fun text ht => (h text ht).2
      have hmap : texts.map String.toList ≠ [] := by simpa using hnil
      rw [namesOf, String.toList_intercalate, hslash, splitAt_intercalate hmap hparts,
        List.filter_map, map_ofList_toList]
      refine List.filter_congr fun text ht => ?_
      have hne : text.toList ≠ [] := mt String.toList_eq_nil_iff.mp (h text ht).1
      rw [Bool.eq_iff_iff]
      simp [← String.toList_inj, hne]
  rw [ofText, hslashes, hnames]

theorem rooted_absolute {working : Path} {text : String}
    (h : (ofText text).slashes = 1 ∨ ((ofText text).slashes = 0 ∧ working.Rooted)) :
    (absolute working text).Rooted := by
  have hsteps : ∀ name ∈ (ofText text).names, IsStep name := isStep_of_mem_namesOf
  rcases h with hone | ⟨hzero, hworking⟩
  · have habsolute : (ofText text).isAbsolute = true := by simp [isAbsolute, hone]
    rw [absolute, inDirectory, if_pos habsolute]
    refine ⟨hone, ?_⟩
    simp only [normal, habsolute]
    exact isName_of_mem_normalNames (by simp) hsteps
  · have hrelative : ¬ (ofText text).isAbsolute = true := by simp [isAbsolute, hzero]
    have habsolute : isAbsolute { working with names := working.names ++ (ofText text).names } =
        true := by
      simp [isAbsolute, hworking.slashes]
    rw [absolute, inDirectory, if_neg hrelative]
    refine ⟨hworking.slashes, ?_⟩
    simp only [normal, habsolute]
    refine isName_of_mem_normalNames (by simp) fun name hn => ?_
    rcases List.mem_append.mp hn with hw | ht
    · exact (hworking.names name hw).toIsStep
    · exact hsteps name ht

theorem Rooted.parent {path : Path} (h : path.Rooted) : path.parent.Rooted :=
  ⟨h.slashes, fun name hn => h.names name (List.dropLast_subset _ hn)⟩

theorem Rooted.of_mem_withParents {path above : Path} (h : path.Rooted)
    (ha : above ∈ path.withParents) : above.Rooted := by
  obtain ⟨n, -, rfl⟩ := List.mem_map.mp ha
  exact ⟨h.slashes, fun name hn => h.names name (List.mem_of_mem_take hn)⟩

end Path

end DocSuite
