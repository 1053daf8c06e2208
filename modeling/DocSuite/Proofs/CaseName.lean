import DocSuite.Proofs.Result
import DocSuite.Suite.Collection
import Mathlib.Data.List.Nodup

/-!
Names of the cases of a document. A name is the title with single spaces between its words, and a
number in brackets if other cases with the same words come before. Main statement: names differ
unless a title has the words of another one with a number that cases with that other one have.
-/
namespace DocSuite

open DocSuite.Text

/-! ### Words -/

/-- Some words with blanks between them, and perhaps around them. -/
inductive Text.Spaced : List (List Char) → List Char → Prop
  | blank {blanks : List Char} (h : ∀ c ∈ blanks, isBlank c = true) : Spaced [] blanks
  | word {ws : List (List Char)} {blanks word rest : List Char}
      (before : ∀ c ∈ blanks, isBlank c = true) (ne_nil : word ≠ [])
      (solid : ∀ c ∈ word, isBlank c = false)
      (apart : ∀ c ∈ rest.head?, isBlank c = true) (later : Spaced ws rest) :
      Spaced (word :: ws) (blanks ++ word ++ rest)

namespace Text

theorem Spaced.blank_append {ws : List (List Char)} {blanks cs : List Char}
    (hb : ∀ c ∈ blanks, isBlank c = true) (h : Spaced ws cs) : Spaced ws (blanks ++ cs) := by
  cases h with
  | blank h => exact .blank fun c hc => (List.mem_append.mp hc).elim (hb c) (h c)
  | word before ne_nil solid apart later =>
    rw [← List.append_assoc, ← List.append_assoc]
    exact .word (fun c hc => (List.mem_append.mp hc).elim (hb c) (before c)) ne_nil solid apart
      later

/-- The word that is being read goes on at the start of the rest. -/
theorem spaced_wordsFrom (current cs : List Char) (h : ∀ c ∈ current, isBlank c = false) :
    Spaced (wordsFrom current cs) (current.reverse ++ cs) := by
  have hsolid {current : List Char} (h : ∀ c ∈ current, isBlank c = false) :
      ∀ c ∈ current.reverse, isBlank c = false := fun c hc => h c (List.mem_reverse.mp hc)
  induction cs generalizing current with
  | nil =>
    cases current with
    | nil => exact .blank (by simp)
    | cons d ds =>
      have hword : Spaced ((d :: ds).reverse :: []) ([] ++ (d :: ds).reverse ++ []) :=
        .word (by simp) (by simp) (hsolid h) (by simp) (.blank (by simp))
      simpa [wordsFrom] using hword
  | cons c cs ih =>
    simp only [wordsFrom]
    split
    next hc =>
      have hrest : Spaced (wordsFrom [] cs) ([c] ++ cs) :=
        (ih [] (by simp)).blank_append (by simpa using hc)
      cases current with
      | nil => simpa using hrest
      | cons d ds =>
        have hword : Spaced ((d :: ds).reverse :: wordsFrom [] cs)
            ([] ++ (d :: ds).reverse ++ c :: cs) :=
          .word (by simp) (by simp) (hsolid h) (by simpa using hc) hrest
        simpa using hword
    next hc =>
      have hgrown := ih (c :: current) (List.forall_mem_cons.mpr ⟨by simpa using hc, h⟩)
      simpa using hgrown

theorem spaced_words (cs : List Char) : Spaced (words cs) cs := spaced_wordsFrom [] cs (by simp)

theorem join_eq_intercalate (sep : List Char) (ws : List (List Char)) :
    join sep ws = sep.intercalate ws := by
  induction ws with
  | nil => rfl
  | cons word ws ih =>
    cases ws with
    | nil => simp [join]
    | cons next ws => rw [join, ih, List.intercalate_cons_cons]; simp

end Text

namespace CollectedCase

/-! ### Numbers in names -/

theorem toList_numbered (name : String) {n : Nat} (h : 1 < n) :
    (numbered name n).toList = name.toList ++ ([' ', '['] ++ (Nat.toDigits 10 n ++ [']'])) := by
  rw [numbered, if_pos h]
  simp [String.toList_append, toString]

/-- A name with a number tells both. -/
theorem numbered_inj {name other : String} {m n : Nat} (hm : 1 < m) (hn : 1 < n)
    (h : numbered name m = numbered other n) : name = other ∧ m = n := by
  have hdigits (k : Nat) : ∀ c ∈ (Nat.toDigits 10 k).reverse, c.isDigit = true := fun c hc =>
    Nat.isDigit_of_mem_toDigits (by omega) (by omega) (List.mem_reverse.mp hc)
  have hread (cs : List Char) (k : Nat) :
      (cs ++ ([' ', '['] ++ Nat.toDigits 10 k)).reverse.takeWhile Char.isDigit =
        (Nat.toDigits 10 k).reverse := by
    rw [List.reverse_append, List.reverse_append, List.append_assoc,
      List.takeWhile_append_of_pos (hdigits k)]
    simp
  have hlist := congrArg String.toList h
  rw [toList_numbered name hm, toList_numbered other hn] at hlist
  simp only [← List.append_assoc, List.append_cancel_right_eq] at hlist
  have hnumber := congrArg (fun cs => (cs.reverse.takeWhile Char.isDigit).reverse) hlist
  simp only [List.append_assoc, hread, List.reverse_reverse] at hnumber
  have hvalue := congrArg (fun digits => Nat.ofDigitChars 10 digits 0) hnumber
  simp only [Nat.ofDigitChars_toDigits (by omega : 1 < 10) (by omega : 10 ≤ 10)] at hvalue
  subst hvalue
  simp only [List.append_cancel_right_eq] at hlist
  exact ⟨String.toList_inj.mp hlist, rfl⟩

/-! ### Names and their numbers -/

/-- The names of titles before they get their numbers, each with how often it has come up, when some
have been seen. -/
def countedFrom (seen : List String) : List String → List (String × Nat)
  | [] => []
  | title :: titles =>
      (nameOf title, seen.count (nameOf title) + 1) :: countedFrom (nameOf title :: seen) titles

theorem namesFrom_eq (seen titles : List String) :
    namesFrom seen titles = (countedFrom seen titles).map fun p => numbered p.1 p.2 := by
  induction titles generalizing seen with
  | nil => rfl
  | cons title titles ih => rw [namesFrom, countedFrom, ih, List.map_cons]

/-- The numbers of a name are those behind the number that was reached before. -/
theorem mem_countedFrom {seen titles : List String} {name : String} {n : Nat} :
    (name, n) ∈ countedFrom seen titles ↔
      seen.count name < n ∧ n ≤ seen.count name + (titles.map nameOf).count name := by
  induction titles generalizing seen with
  | nil =>
    simp only [countedFrom, List.not_mem_nil, List.map_nil, List.count_nil, false_iff]
    omega
  | cons title titles ih =>
    rw [countedFrom, List.mem_cons, ih, List.map_cons, List.count_cons, List.count_cons]
    by_cases h : nameOf title = name
    · subst h
      simp only [Prod.mk.injEq, true_and, beq_self_eq_true, if_true]
      omega
    · have hne : ¬ (name, n) = (nameOf title, seen.count (nameOf title) + 1) := by
        simp [Ne.symm h]
      simp [h, hne]

theorem nodup_countedFrom (seen titles : List String) : (countedFrom seen titles).Nodup := by
  induction titles generalizing seen with
  | nil => exact List.nodup_nil
  | cons title titles ih =>
    rw [countedFrom, List.nodup_cons]
    refine ⟨fun h => ?_, ih _⟩
    have hlt := (mem_countedFrom.mp h).1
    simp at hlt

/-- No title has the words of another one with a number that cases with that other one have. -/
def Separate (titles : List String) : Prop :=
  ∀ name n, 2 ≤ n → n ≤ (titles.map nameOf).count name → numbered name n ∉ titles.map nameOf

theorem nodup_namesOf_iff (titles : List String) : (namesOf titles).Nodup ↔ Separate titles := by
  have hmem {name : String} {n : Nat} : (name, n) ∈ countedFrom [] titles ↔
      0 < n ∧ n ≤ (titles.map nameOf).count name := by
    have h := @mem_countedFrom [] titles name n
    simpa using h
  rw [namesOf, namesFrom_eq, List.nodup_map_iff_inj_on (nodup_countedFrom [] titles)]
  constructor
  · intro hinj name n htwo hle hin
    have hfirst : (numbered name n, 1) ∈ countedFrom [] titles :=
      hmem.mpr ⟨Nat.one_pos, List.count_pos_iff.mpr hin⟩
    have hnumbered : (name, n) ∈ countedFrom [] titles := hmem.mpr ⟨by omega, hle⟩
    have hsame := congrArg Prod.snd (hinj _ hfirst _ hnumbered rfl)
    dsimp only at hsame
    omega
  · -- One of two equal names has no number, so it is a title that reads like the other.
    have hclash (hs : Separate titles) {name other : String} {n : Nat}
        (ho : (other, 1) ∈ countedFrom [] titles) (hn : (name, n) ∈ countedFrom [] titles)
        (htwo : 1 < n) : other ≠ numbered name n := by
      rintro rfl
      exact hs name n htwo (hmem.mp hn).2 (List.count_pos_iff.mp (hmem.mp ho).2)
    rintro hs ⟨name, m⟩ hm ⟨other, n⟩ hn heq
    dsimp only at heq
    have hm0 := (hmem.mp hm).1
    have hn0 := (hmem.mp hn).1
    rcases Nat.lt_or_eq_of_le hm0 with hm1 | rfl
    · rcases Nat.lt_or_eq_of_le hn0 with hn1 | rfl
      · obtain ⟨rfl, rfl⟩ := numbered_inj hm1 hn1 heq
        rfl
      · exact absurd heq.symm (hclash hs hn hm hm1)
    · rcases Nat.lt_or_eq_of_le hn0 with hn1 | rfl
      · exact absurd heq (hclash hs hm hn hn1)
      · exact Prod.ext heq rfl

/-! ### Collected cases -/

/-- A title in one line with single spaces between its words, and perhaps a number behind. -/
def Names (title name : String) : Prop :=
  ∃ ws, Spaced ws title.toList ∧
    (name = String.ofList ([' '].intercalate ws) ∨
      ∃ n, 2 ≤ n ∧ name = numbered (String.ofList ([' '].intercalate ws)) n)

theorem forall₂_names (seen titles : List String) :
    List.Forall₂ Names titles (namesFrom seen titles) := by
  induction titles generalizing seen with
  | nil => exact .nil
  | cons title titles ih =>
    refine .cons ⟨words title.toList, spaced_words _, ?_⟩ (ih _)
    rw [← join_eq_intercalate, ← nameOf]
    rcases Nat.eq_zero_or_pos (seen.count (nameOf title)) with hzero | hpos
    · left
      rw [hzero]
      rfl
    · exact .inr ⟨_, Nat.succ_le_succ hpos, rfl⟩

theorem length_namesFrom (seen titles : List String) :
    (namesFrom seen titles).length = titles.length :=
  (forall₂_names seen titles).length_eq.symm

theorem map_case_ofCases (suiteTitle : String) (cases : List Case) :
    (ofCases suiteTitle cases).map CollectedCase.case = cases := by
  have hlength : cases.length = (namesOf (cases.map Case.title)).length := by
    rw [namesOf, length_namesFrom, List.length_map]
  rw [ofCases, List.map_map]
  exact List.map_fst_zip (Nat.le_of_eq hlength)

theorem map_name_ofCases (suiteTitle : String) (cases : List Case) :
    (ofCases suiteTitle cases).map CollectedCase.name = namesOf (cases.map Case.title) := by
  have hlength : (namesOf (cases.map Case.title)).length = cases.length := by
    rw [namesOf, length_namesFrom, List.length_map]
  rw [ofCases, List.map_map]
  exact List.map_snd_zip (Nat.le_of_eq hlength)

theorem names_of_mem_ofCases {suiteTitle : String} {cases : List Case} {item : CollectedCase}
    (h : item ∈ ofCases suiteTitle cases) : Names item.case.title item.name := by
  have hnames := forall₂_names [] (cases.map Case.title)
  rw [← namesOf, ← map_name_ofCases suiteTitle] at hnames
  nth_rewrite 1 [← map_case_ofCases suiteTitle cases] at hnames
  rw [List.map_map, List.forall₂_map_left_iff, List.forall₂_map_right_iff,
    List.forall₂_same] at hnames
  exact hnames item h

/-- The items of some cases, in the order of these. -/
structure NamesCases (cases : List Case) (items : List CollectedCase) : Prop where
  same : items.map CollectedCase.case = cases
  named : ∀ item ∈ items, Names item.case.title item.name
  distinct_iff : (items.map CollectedCase.name).Nodup ↔ Separate (cases.map Case.title)

theorem namesCases_ofCases (suiteTitle : String) (cases : List Case) :
    NamesCases cases (ofCases suiteTitle cases) where
  same := map_case_ofCases suiteTitle cases
  named := fun _ => names_of_mem_ofCases
  distinct_iff := by rw [map_name_ofCases, nodup_namesOf_iff]

/-- A document that can be collected gives an item for each of its cases. -/
theorem items_of_collect {rules : CollectionRules} {tree : FileTree} {path : Path}
    {items : List CollectedCase} (h : collect rules tree path = .ok items) :
    ∃ compiled : Compiled, items = ofCases compiled.program.title compiled.program.cases := by
  simp only [collect, bind, Except.bind, pure, Except.pure, throw, throwThe,
    MonadExceptOf.throw] at h
  split at h
  next settings hsettings =>
    split at h
    next source hsource =>
      split at h
      next compiled hcompiled =>
        split at h
        next => cases h
        next => exact ⟨compiled, (Except.ok.inj h).symm⟩
      next => split at h <;> cases h
    next => cases h
  next => cases h
  next => cases h

/-- Collected cases have names of their own exactly if no title has the words of another one with a
number that cases with that other one have. -/
theorem collected_distinct_iff (suiteTitle : String) (cases : List Case) :
    NamesCases cases (ofCases suiteTitle cases) ∧
      ∀ rules tree path items, collect rules tree path = .ok items →
        ∃ found, NamesCases found items := by
  refine ⟨namesCases_ofCases suiteTitle cases, fun rules tree path items h => ?_⟩
  obtain ⟨compiled, rfl⟩ := items_of_collect h
  exact ⟨_, namesCases_ofCases _ compiled.program.cases⟩

namespace NumberedTitles

def case (title : String) : Case := ⟨title, [], true⟩

/-- A title that has a number of its own, and cases that have a title in common. -/
def repeated : List Case := [case "Add", case "Add  [3]", case " Add"]

/-- A title that is written as the second case of another one is named. -/
def clashing : List Case := [case "Add", case "Add", case "Add [2]"]

def document : String :=
  "Add:\n\n```python+test\n1 + 1  # => 2\n```\n\nAdd:\n\n```python+test\n2 + 1  # => 3\n```\n"

def path : Path := ⟨1, ["guide.md"]⟩

def tree : FileTree := ⟨⟨1, []⟩, [(["guide.md"], .file (Utf8.encode document.toList))]⟩

end NumberedTitles

open NumberedTitles

theorem collected_distinct_repeatedTitles :
    (Separate (repeated.map Case.title) ∧
        ((ofCases "Suite" repeated).map CollectedCase.name).Nodup) ∧
      ∃ cases items, collect {} tree path = .ok items ∧ NamesCases cases items ∧
        items.map CollectedCase.name = ["Add", "Add [2]"] := by
  obtain ⟨hcases, hcollect⟩ := collected_distinct_iff "Suite" repeated
  have hnodup : ((ofCases "Suite" repeated).map CollectedCase.name).Nodup := by decide +kernel
  have hnames : (collect {} tree path).toOption.map (List.map CollectedCase.name) =
      some ["Add", "Add [2]"] := by
    decide +kernel
  obtain ⟨items, hitems, hnames⟩ := exists_of_toOption_map hnames
  obtain ⟨cases, hcases'⟩ := hcollect {} tree path items hitems
  exact ⟨⟨hcases.distinct_iff.mp hnodup, hnodup⟩, cases, items, hitems, hcases', hnames⟩

theorem not_distinct_clashing :
    ¬ ((ofCases "Suite" clashing).map CollectedCase.name).Nodup := by
  decide +kernel

end CollectedCase

end DocSuite
