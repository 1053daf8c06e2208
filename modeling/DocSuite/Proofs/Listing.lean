import DocSuite.CommandLine.Run
import DocSuite.Proofs.LanguageTag

/-!
The listing of samples: a line for each, with its number, the line of its fence, its language and
its title behind tabs. Main statement: the samples are read back from their listing exactly if no
title holds a line feed; each line feed in a title adds a line.
-/
namespace DocSuite

open DocSuite.Text

/-! ### Reading a listing -/

/-- The lines of a text in which every line ends. -/
def Text.linesOf (text : List Char) : List (List Char) := (splitAt '\n' text).dropLast

/-- The parts of a line that is split at its first tabs. -/
def Text.fields : (tabs : Nat) → List Char → List (List Char)
  | 0, line => [line]
  | tabs + 1, line =>
      match line.dropWhile (· != '\t') with
      | [] => [line]
      | _ :: rest => line.takeWhile (· != '\t') :: fields tabs rest

/-- What a listing says of a sample. -/
structure ListedSample where
  number : Nat
  line : Int
  language : String
  title : String
  deriving DecidableEq, Repr

namespace ListedSample

def ofLine (line : List Char) : Option ListedSample :=
  match fields 3 line with
  | [number, line, language, title] =>
      some ⟨Nat.ofDigitChars 10 number 0, Nat.ofDigitChars 10 line 0, String.ofList language,
        String.ofList title⟩
  | _ => none

/-- What a listing is to say of a sample with a number. -/
def ofSample (number : Nat) (sample : Sample) : Option ListedSample :=
  sample.line.map fun line => ⟨number, line, sample.language, sample.caseTitle⟩

end ListedSample

/-- The samples are read back from their listing, one from each line. -/
def IsListing (samples : List Sample) (text : String) : Prop :=
  (linesOf text.toList).map ListedSample.ofLine =
    samples.zipIdx.map fun (sample, number) => ListedSample.ofSample number sample

instance decidableIsListing (samples : List Sample) (text : String) :
    Decidable (IsListing samples text) :=
  inferInstanceAs (Decidable (_ = _))

/-! ### Lines and fields -/

namespace Text

variable {sep : Char}

theorem splitAt_flatMap_break (parts : List (List Char)) :
    splitAt sep (parts.flatMap (· ++ [sep])) = parts.flatMap (splitAt sep) ++ [[]] := by
  induction parts with
  | nil => rfl
  | cons part parts ih =>
    rw [List.flatMap_cons, List.append_assoc, List.singleton_append, splitAt_append_break, ih,
      List.flatMap_cons, List.append_assoc]

/-- Parts of a text that all end are split further where they hold line feeds. -/
theorem linesOf_flatMap (parts : List (List Char)) :
    linesOf (parts.flatMap (· ++ ['\n'])) = parts.flatMap (splitAt '\n') := by
  rw [linesOf, splitAt_flatMap_break, List.dropLast_concat]

theorem length_flatMap_splitAt (parts : List (List Char)) :
    (parts.flatMap (splitAt sep)).length = parts.length + parts.flatten.count sep := by
  induction parts with
  | nil => rfl
  | cons part parts ih =>
    rw [List.flatMap_cons, List.length_append, length_splitAt, ih, List.length_cons,
      List.flatten_cons, List.count_append]
    omega

theorem fields_succ {field : List Char} (h : '\t' ∉ field) (tabs : Nat) (rest : List Char) :
    fields (tabs + 1) (field ++ '\t' :: rest) = field :: fields tabs rest := by
  have hfield : ∀ c ∈ field, (c != '\t') = true := fun c hc => by
    simpa using ne_of_mem_of_not_mem hc h
  rw [fields, List.dropWhile_append_of_pos hfield, List.takeWhile_append_of_pos hfield]
  simp

/-- Fields without tabs in front of a last one are read from the line in which tabs stand between
them. -/
theorem fields_intercalate {front : List (List Char)} (h : ∀ field ∈ front, '\t' ∉ field)
    (last : List Char) : fields front.length (['\t'].intercalate (front ++ [last])) =
      front ++ [last] := by
  induction front with
  | nil => simp [fields]
  | cons field front ih =>
    obtain ⟨hfield, hfront⟩ := List.forall_mem_cons.mp h
    obtain ⟨next, rest, hrest⟩ := List.exists_cons_of_ne_nil (List.concat_ne_nil last front)
    rw [List.cons_append, hrest, List.intercalate_cons_cons, ← hrest, List.append_assoc,
      List.singleton_append, List.length_cons, fields_succ hfield, ih hfront]

end Text

/-! ### Lines of samples -/

theorem toList_toString_nat (n : Nat) : (toString n).toList = Nat.toDigits 10 n := by
  simp [toString]

theorem not_mem_toDigits {c : Char} (h : c.isDigit = false) (n : Nat) :
    c ∉ Nat.toDigits 10 n := fun hc => by
  rw [Nat.isDigit_of_mem_toDigits (by omega) (by omega) hc] at h
  cases h

/-- A sample in a line of a document, in a language that is one word. -/
structure Sample.Located (sample : Sample) (line : Nat) : Prop where
  line : sample.line = some (line : Int)
  language : ∀ c ∈ sample.language.toList, isBlank c = false

theorem exists_located_of_mem_scan {source : String} {languages : List String} {sample : Sample}
    (h : sample ∈ scan source languages) : ∃ line, sample.Located line := by
  obtain ⟨line, hline, hstands⟩ := standsAt_of_mem_scan h
  obtain ⟨-, info, -, -, hinfo⟩ := hstands.opening
  exact ⟨line, hline, hinfo ▸ fenceLanguage_not_blank _⟩

namespace Command

/-- What precedes the title in the line that lists a sample. -/
def front (number line : Nat) (language : String) : List (List Char) :=
  [Nat.toDigits 10 number, Nat.toDigits 10 line, language.toList]

/-- The line that lists a sample, without its end. -/
def row (number line : Nat) (sample : Sample) : List Char :=
  ['\t'].intercalate (front number line sample.language ++ [sample.caseTitle.toList])

section

variable {sample : Sample} {line : Nat}

theorem toList_sampleLine (h : sample.Located line) (number : Nat) :
    (sampleLine number sample).toList = row number line sample ++ ['\n'] := by
  have hline : toString (line : Int) = toString line := rfl
  simp only [sampleLine, h.line, hline, String.toList_append, String.toList_intercalate, row, front,
    List.map_cons, List.map_nil, toList_toString_nat]
  rfl

/-- No blank stands in front of the title but the tabs. -/
theorem not_mem_front (h : sample.Located line) (number : Nat) {c : Char} (hb : isBlank c = true)
    (hd : c.isDigit = false) : ∀ field ∈ front number line sample.language, c ∉ field := by
  simp only [front, List.forall_mem_cons]
  refine ⟨not_mem_toDigits hd _, not_mem_toDigits hd _, fun hc => ?_, by simp⟩
  rw [h.language c hc] at hb
  cases hb

/-- The title holds all line feeds of the line of a sample but the one at its end. -/
theorem count_row (h : sample.Located line) (number : Nat) :
    (row number line sample).count '\n' = sample.caseTitle.toList.count '\n' := by
  have hfront := not_mem_front h number (c := '\n') (by decide) (by decide)
  simp only [front, List.forall_mem_cons] at hfront
  simp [row, front, List.intercalate_cons_cons, List.count_eq_zero_of_not_mem hfront.1,
    List.count_eq_zero_of_not_mem hfront.2.1, List.count_eq_zero_of_not_mem hfront.2.2.1]

theorem ofLine_row (h : sample.Located line) (number : Nat) :
    ListedSample.ofLine (row number line sample) = ListedSample.ofSample number sample := by
  have hfields : fields 3 (row number line sample) =
      front number line sample.language ++ [sample.caseTitle.toList] :=
    fields_intercalate (not_mem_front h number (by decide) (by decide)) _
  have hdigits (n : Nat) : Nat.ofDigitChars 10 (Nat.toDigits 10 n) 0 = n :=
    Nat.ofDigitChars_toDigits (by omega) (by omega)
  rw [ListedSample.ofLine, hfields]
  simp [front, ListedSample.ofSample, h.line, hdigits]

end

/-! ### The whole listing -/

/-- The lines that list samples, from a number on. -/
def listing (number : Nat) (samples : List Sample) : String :=
  String.join ((samples.zipIdx number).map fun (sample, number) => sampleLine number sample)

theorem exists_rows {samples : List Sample} (h : ∀ sample ∈ samples, ∃ line, sample.Located line)
    (number : Nat) : ∃ rows : List (List Char),
      (listing number samples).toList = rows.flatMap (· ++ ['\n']) ∧
      rows.map ListedSample.ofLine =
        (samples.zipIdx number).map (fun (sample, number) => ListedSample.ofSample number sample) ∧
      rows.map (List.count '\n') =
        samples.map fun sample => sample.caseTitle.toList.count '\n' := by
  induction samples generalizing number with
  | nil => exact ⟨[], rfl, rfl, rfl⟩
  | cons sample samples ih =>
    obtain ⟨⟨line, hline⟩, hsamples⟩ := List.forall_mem_cons.mp h
    obtain ⟨rows, htext, hread, hcount⟩ := ih hsamples (number + 1)
    refine ⟨row number line sample :: rows, ?_, ?_, ?_⟩
    · rw [List.flatMap_cons, ← htext, ← toList_sampleLine hline]
      simp [listing]
    · simp only [List.map_cons, List.zipIdx_cons, ofLine_row hline, hread]
    · simp only [List.map_cons, count_row hline, hcount]

/-- How many line feeds the titles of samples hold. -/
def titleBreaks (samples : List Sample) : Nat :=
  (samples.flatMap fun sample => sample.caseTitle.toList).count '\n'

/-- Each line feed in a title adds a line to the listing. -/
theorem length_linesOf_listing {samples : List Sample}
    (h : ∀ sample ∈ samples, ∃ line, sample.Located line) :
    (linesOf (listing 0 samples).toList).length = samples.length + titleBreaks samples := by
  obtain ⟨rows, htext, hread, hcount⟩ := exists_rows h 0
  have hlength : rows.length = samples.length := by simpa using congrArg List.length hread
  have hbreaks : rows.flatten.count '\n' = titleBreaks samples := by
    rw [List.count_flatten, hcount, titleBreaks, List.count_flatMap]
    rfl
  rw [htext, linesOf_flatMap, length_flatMap_splitAt, hlength, hbreaks]

theorem isListing_iff {samples : List Sample}
    (h : ∀ sample ∈ samples, ∃ line, sample.Located line) :
    IsListing samples (listing 0 samples) ↔ ∀ sample ∈ samples, '\n' ∉ sample.caseTitle.toList := by
  constructor
  · intro hlisting
    have hlength := congrArg List.length hlisting
    rw [List.length_map, List.length_map, List.length_zipIdx, length_linesOf_listing h] at hlength
    -- With a line feed in a title, the listing has more lines than there are samples.
    have hzero : titleBreaks samples = 0 := by omega
    exact fun sample hs hbreak =>
      List.count_eq_zero.mp hzero (List.mem_flatMap.mpr ⟨sample, hs, hbreak⟩)
  · intro hplain
    obtain ⟨rows, htext, hread, hcount⟩ := exists_rows h 0
    have hrows : ∀ row ∈ rows, '\n' ∉ row := by
      intro row hr
      have hmem : row.count '\n' ∈ rows.map (List.count '\n') := List.mem_map_of_mem hr
      rw [hcount, List.mem_map] at hmem
      obtain ⟨sample, hs, heq⟩ := hmem
      rw [List.count_eq_zero_of_not_mem (hplain sample hs)] at heq
      exact List.count_eq_zero.mp heq.symm
    have hlines : rows.flatMap (splitAt '\n') = rows := by
      clear htext hread hcount
      induction rows with
      | nil => rfl
      | cons row rows ih =>
        obtain ⟨hrow, hrest⟩ := List.forall_mem_cons.mp hrows
        rw [List.flatMap_cons, splitAt_of_not_mem hrow, ih hrest, List.singleton_append]
    rw [IsListing, htext, linesOf_flatMap, hlines, hread]

end Command

/-- Samples depend on which languages are asked for, in whatever order. -/
theorem scan_congr (source : String) {languages others : List String}
    (h : ∀ tag, tag ∈ languages ↔ tag ∈ others) : scan source languages = scan source others := by
  have hcontains (tag : String) : languages.contains tag = others.contains tag := by
    rw [Bool.eq_iff_iff, List.contains_iff_mem, List.contains_iff_mem, h]
  simp only [scan, hcontains]

namespace Command

/-- The command can list the samples of a document: its path says something, the languages are
accepted, and its file holds the text. -/
structure CanList (tree : FileTree) (document : Path) (languages : List String) (source : String) :
    Prop where
  path : document.text.toList.all isBlank = false
  languages : ∀ tag ∈ languages, Options.languageProblem? (.text tag) = none
  source : tree.readText document = .ok source

theorem document_of_checked (tree : FileTree) {path : Path} {languages : List String}
    {options : Options}
    (h : Options.ofFile path.text (.list (languages.map .text)) [] = .ok options) :
    document tree path languages [] =
      match options.checked, tree.readText path with
      | .ok (_, settings), .ok source => .ok (settings, source)
      | .ok _, .error fault => .error (.text fault)
      | .error fault, _ => .error (.options fault) := by
  have hchecked : (Options.ofFile path.text (.list (languages.map .text)) [] >>= Options.checked) =
      options.checked := by
    rw [h]
    rfl
  simp only [document, hchecked]
  cases options.checked with
  | error fault => rfl
  | ok given =>
    cases tree.readText path with
    | error fault => rfl
    | ok source => rfl

/-- A document is read for the default languages and some more, or the command fails. -/
theorem document_cases (tree : FileTree) (path : Path) (languages : List String) :
    (∃ settings source, CanList tree path languages source ∧
      document tree path languages [] = .ok (settings, source) ∧
      ∀ tag, tag ∈ settings.languages ↔ tag ∈ Options.defaultLanguages ++ languages) ∨
    (∃ fault, document tree path languages [] = .error fault) ∧
      ∀ source, ¬ CanList tree path languages source := by
  obtain ⟨set, hmem, hoptions⟩ := Options.ofFile_texts path.text languages
  have hdocument := document_of_checked tree hoptions
  have hproblems := Options.problems_file path.text hmem
  by_cases hnone :
      ({ filename := .text path.text, languages := set } : Options).problems = []
  · rw [Options.checked_eq_ok hnone] at hdocument
    obtain ⟨hpath, hlanguages⟩ := hproblems.mp hnone
    cases hread : tree.readText path with
    | error fault =>
      rw [hread] at hdocument
      refine .inr ⟨⟨_, hdocument⟩, fun source h => ?_⟩
      have hsource := h.source
      rw [hread] at hsource
      cases hsource
    | ok source =>
      rw [hread] at hdocument
      refine .inl ⟨_, source, ⟨hpath, hlanguages, hread⟩, hdocument, fun tag => ?_⟩
      rw [Options.mem_languages_settings, hmem]
      simp
  · cases hchecked : Options.checked { filename := .text path.text, languages := set } with
    | ok given => exact absurd ⟨given, hchecked⟩ (Options.not_succeeds_checked hnone)
    | error fault =>
      rw [hchecked] at hdocument
      exact .inr ⟨⟨_, hdocument⟩, fun source h => hnone (hproblems.mpr ⟨h.path, h.languages⟩)⟩

/-! ### The command -/

/-- The samples that the command lists. -/
def listed (languages : List String) (source : String) : List Sample :=
  scan source (Options.defaultLanguages ++ languages)

/-- The command ends well and changes no file; its output is the listing of samples. -/
structure Lists (tree : FileTree) (samples : List Sample) (outcome : Outcome) : Prop where
  tree : outcome.tree = tree
  errorOutput : outcome.errorOutput = ""
  ending : outcome.ending = .finished 0
  /-- Each sample has a line, and each line feed in a title adds one. -/
  lines : (linesOf outcome.standardOutput.toList).length =
    samples.length + titleBreaks samples
  readBack : IsListing samples outcome.standardOutput ↔
    ∀ sample ∈ samples, '\n' ∉ sample.caseTitle.toList

/-- The command fails and lists nothing. -/
structure ListsNothing (outcome : Outcome) : Prop where
  standardOutput : outcome.standardOutput = ""
  ending : outcome.ending ≠ .finished 0

theorem listsNothing_ofFault (tree : FileTree) (told : String) (fault : CommandFault) :
    ListsNothing (Outcome.ofFault tree told fault) := by
  unfold Outcome.ofFault
  split <;> exact ⟨rfl, by simp⟩

theorem lists_listing {tree : FileTree} {samples : List Sample}
    (h : ∀ sample ∈ samples, ∃ line, sample.Located line) :
    Lists tree samples { tree, standardOutput := listing 0 samples } :=
  ⟨rfl, rfl, rfl, length_linesOf_listing h, isListing_iff h⟩

/-- The samples of a document are read back from what the command prints exactly if no title holds a
line feed. Without a document or with a language that is refused, nothing is printed. -/
theorem runSamples_readBack_iff (tree : FileTree) (path : Path) (languages : List String) :
    (∀ source, CanList tree path languages source →
      Lists tree (listed languages source) (runSamples tree path languages)) ∧
    ((∀ source, ¬ CanList tree path languages source) →
      ListsNothing (runSamples tree path languages)) := by
  rcases document_cases tree path languages with
    ⟨settings, source, hcan, hdocument, hlanguages⟩ | ⟨⟨fault, hdocument⟩, hnone⟩
  · have hrun : runSamples tree path languages =
        { tree, standardOutput := listing 0 (listed languages source) } := by
      rw [runSamples, hdocument, listed, ← scan_congr source hlanguages]
      rfl
    refine ⟨fun other hother => ?_, fun hno => absurd hcan (hno source)⟩
    have hsource : source = other := by
      have hread := hcan.source
      rw [hother.source, Except.ok.injEq] at hread
      exact hread.symm
    subst hsource
    rw [hrun]
    exact lists_listing fun sample hs => exists_located_of_mem_scan hs
  · refine ⟨fun source hcan => absurd hcan (hnone source), fun _ => ?_⟩
    rw [runSamples, hdocument]
    exact listsNothing_ofFault tree "" fault

/-- A root with one file. -/
def shelf (source : String) : FileTree :=
  ⟨⟨1, []⟩, [(["a.md"], .file (Utf8.encode source.toList))]⟩

/-- The title of the first sample holds tabs, the second sample has no title. -/
def tabbed : String := "A\tb&#9;c:\n\n~~~py+test\n~~~\n\n~~~b\n~~~\n"

theorem canList_tabbed : CanList (shelf tabbed) (Path.ofText "a.md") ["b"] tabbed :=
  ⟨by decide +kernel, by decide +kernel, by decide +kernel⟩

theorem runSamples_readBack_tabbed :
    CanList (shelf tabbed) (Path.ofText "a.md") ["b"] tabbed ∧
      (listed ["b"] tabbed).map Sample.caseTitle = ["A\tb\tc", "works"] ∧
      IsListing (listed ["b"] tabbed)
        (runSamples (shelf tabbed) (Path.ofText "a.md") ["b"]).standardOutput := by
  have hlists :=
    (runSamples_readBack_iff (shelf tabbed) (Path.ofText "a.md") ["b"]).1 tabbed canList_tabbed
  have htitles : (listed ["b"] tabbed).map Sample.caseTitle = ["A\tb\tc", "works"] := by
    decide +kernel
  refine ⟨canList_tabbed, htitles, hlists.readBack.mpr fun sample hs => ?_⟩
  have hmem : sample.caseTitle ∈ ["A\tb\tc", "works"] := htitles ▸ List.mem_map_of_mem hs
  revert hmem
  generalize sample.caseTitle = title
  revert title
  decide

/-- The title has two lines. -/
def broken : String := "A\nb\n\n~~~py+test\n~~~\n"

theorem not_isListing_brokenTitle :
    CanList (shelf broken) (Path.ofText "a.md") [] broken ∧
      ¬ IsListing (listed [] broken)
        (runSamples (shelf broken) (Path.ofText "a.md") []).standardOutput :=
  ⟨⟨by decide +kernel, by decide +kernel, by decide +kernel⟩, by decide +kernel⟩

end Command

end DocSuite
