import DocSuite.Options
import DocSuite.Proofs.DocumentLine
import DocSuite.Proofs.Trailing

/-!
Language tags. A fence names its language by the first word behind it, so a tag is of use only if
it is one word. Main statement: the tags that are accepted are words, and words with one line feed
behind them, which no fence can name.
-/
namespace DocSuite

open DocSuite.Markdown DocSuite.Text

/-! ### Words -/

namespace Text

theorem wordsFrom_append {word : List Char} (h : ∀ c ∈ word, isBlank c = false)
    (current rest : List Char) :
    wordsFrom current (word ++ rest) = wordsFrom (word.reverse ++ current) rest := by
  induction word generalizing current with
  | nil => rfl
  | cons c word ih =>
    obtain ⟨hc, hword⟩ := List.forall_mem_cons.mp h
    rw [List.cons_append, wordsFrom, if_neg (by simp [hc]), ih hword, List.reverse_cons,
      List.append_assoc, List.singleton_append]

/-- Characters without a blank are one word. -/
theorem words_eq_singleton {word : List Char} (hne : word ≠ [])
    (h : ∀ c ∈ word, isBlank c = false) : words word = [word] := by
  have happend := wordsFrom_append h [] []
  rw [List.append_nil, List.append_nil] at happend
  rw [words, happend, wordsFrom, if_neg (by simpa using hne), List.reverse_reverse]

theorem words_cons_blank {c : Char} (h : isBlank c = true) (cs : List Char) :
    words (c :: cs) = words cs := by
  rw [words, wordsFrom, if_pos h]
  rfl

end Text

/-! ### Tags of fences -/

theorem fenceLanguage_not_blank (info : String) :
    ∀ c ∈ (fenceLanguage info).toList, isBlank c = false := by
  unfold fenceLanguage
  split
  next word rest hwords =>
    rw [String.toList_ofList]
    exact words_not_blank info.toList word (hwords ▸ List.mem_cons_self)
  next => simp

theorem fenceLanguage_of_not_blank {tag : String} (h : ∀ c ∈ tag.toList, isBlank c = false) :
    fenceLanguage tag = tag := by
  by_cases hne : tag.toList = []
  · rw [String.toList_eq_nil_iff.mp hne]
    rfl
  · rw [fenceLanguage, words_eq_singleton hne h]
    exact String.ofList_toList

/-- What stands behind a fence is the language it names exactly if it holds no blank. -/
theorem fenceLanguage_eq_self_iff {tag : String} :
    fenceLanguage tag = tag ↔ ∀ c ∈ tag.toList, isBlank c = false :=
  ⟨fun h => h ▸ fenceLanguage_not_blank tag, fenceLanguage_of_not_blank⟩

theorem mem_of_mem_wordsFrom {current cs word : List Char} (h : word ∈ wordsFrom current cs)
    {c : Char} (hc : c ∈ word) : c ∈ current ∨ c ∈ cs := by
  induction cs generalizing current with
  | nil =>
    rw [wordsFrom] at h
    split at h
    · cases h
    · rw [List.mem_singleton.mp h, List.mem_reverse] at hc
      exact .inl hc
  | cons d ds ih =>
    rw [wordsFrom] at h
    split at h
    · have hrest (hword : word ∈ wordsFrom [] ds) : c ∈ current ∨ c ∈ d :: ds :=
        .inr (List.mem_cons_of_mem _ ((ih hword).resolve_left List.not_mem_nil))
      split at h
      · exact hrest h
      · rcases List.mem_cons.mp h with rfl | h
        · exact .inl (List.mem_reverse.mp hc)
        · exact hrest h
    · rcases ih h with hm | hm
      · exact (List.mem_cons.mp hm).elim (fun he => .inr (he ▸ List.mem_cons_self)) .inl
      · exact .inr (List.mem_cons_of_mem _ hm)

theorem mem_of_mem_fenceLanguage {info : String} {c : Char} (h : c ∈ (fenceLanguage info).toList) :
    c ∈ info.toList := by
  unfold fenceLanguage at h
  split at h
  next word rest hwords =>
    rw [String.toList_ofList] at h
    have hword : word ∈ wordsFrom [] info.toList := by
      rw [← words, hwords]
      exact List.mem_cons_self
    exact (mem_of_mem_wordsFrom hword h).resolve_left List.not_mem_nil
  next => simp at h

/-- A tag that a fence names if it stands behind it. -/
def IsTag (tag : String) : Prop := tag ≠ "" ∧ fenceLanguage tag = tag

theorem isTag_iff {tag : String} :
    IsTag tag ↔ tag ≠ "" ∧ ∀ c ∈ tag.toList, isBlank c = false := by
  rw [IsTag, fenceLanguage_eq_self_iff]

/-- A tag with a line feed behind it. -/
def IsBrokenTag (tag : String) : Prop := ∃ word, IsTag word ∧ tag = word ++ "\n"

theorem IsBrokenTag.not_isTag {tag : String} (h : IsBrokenTag tag) : ¬ IsTag tag := by
  obtain ⟨word, -, rfl⟩ := h
  intro htag
  have hbreak := (isTag_iff.mp htag).2 '\n' (by simp)
  exact absurd hbreak (by decide)

/-! ### Tags that are accepted -/

namespace Options

theorem languageProblem?_eq_none_iff {tag : String} (line : String)
    (hline : (if tag.toList.getLast? = some '\n' then tag.toList.dropLast else tag.toList) =
      line.toList) : languageProblem? (.text tag) = none ↔ IsTag line := by
  simp only [languageProblem?, hline, isTag_iff]
  simp [String.toList_eq_nil_iff]

/-- Accepted are tags, and tags with one line feed behind them. -/
theorem languageProblem?_text (tag : String) :
    languageProblem? (.text tag) = none ↔ IsTag tag ∨ IsBrokenTag tag := by
  -- The check passes over one final line feed, whatever is in front of it.
  by_cases hlast : tag.toList.getLast? = some '\n'
  · obtain ⟨word, hword⟩ := List.getLast?_eq_some_iff.mp hlast
    have htag : tag = String.ofList word ++ "\n" := by
      rw [← String.toList_inj, String.toList_append, hword, String.toList_ofList]
      rfl
    rw [languageProblem?_eq_none_iff (String.ofList word) (by simp [hword])]
    constructor
    · exact fun h => .inr ⟨_, h, htag⟩
    · rintro (h | ⟨other, h, hother⟩)
      · have hbreak := (isTag_iff.mp h).2 '\n' (List.mem_of_getLast? hlast)
        exact absurd hbreak (by decide)
      · rw [htag, String.append_left_inj] at hother
        rwa [hother]
  · rw [languageProblem?_eq_none_iff tag (if_neg hlast)]
    refine (or_iff_left ?_).symm
    rintro ⟨word, -, rfl⟩
    exact hlast (by simp)

theorem languageProblems_eq_nil_iff (tags : List Value) :
    languageProblems tags = [] ↔ tags ≠ [] ∧ ∀ tag ∈ tags, languageProblem? tag = none := by
  rw [languageProblems]
  split
  next h => simp [List.isEmpty_iff.mp h]
  next h =>
    have hne : tags ≠ [] := fun hnil => h (List.isEmpty_iff.mpr hnil)
    simp [sortByText, List.filterMap_eq_nil_iff, mem_sortBy, hne]

end Options

/-! ### Tags in documents -/

theorem Text.mem_of_mem_line? {c : Char} {text line : List Char} {number : Nat}
    (h : line? text number = some line) (hc : c ∈ line) : c ∈ text := by
  cases number with
  | zero => cases h
  | succ n => exact mem_of_mem_splitAt line (List.mem_of_getElem? h) hc

namespace Markdown

theorem Opens.mem {whole info : List Char} (h : Opens whole info) {c : Char} (hc : c ∈ info) :
    c ∈ whole := by
  obtain ⟨mark, size, -, -, marks, -, rfl⟩ := h
  simp [hc]

theorem normalize_eq_self {source : List Char} (h : ∀ c ∈ source, c ≠ '\r' ∧ c ≠ '\x00') :
    normalize source = source := by
  induction source using normalize.induct with
  | case1 cs ih => exact absurd rfl (h '\r' (by simp)).1
  | case2 cs hcs ih => exact absurd rfl (h '\r' (by simp)).1
  | case3 cs ih => exact absurd rfl (h '\x00' (by simp)).2
  | case4 c cs hf hr hn ih => rw [normalize.eq_4 c cs hf hr hn, ih (List.forall_mem_cons.mp h).2]
  | case5 => rfl

/-- A document with one fence, and nothing in it. -/
def fenceDocument (info : List Char) : List Char := "~~~ ".toList ++ (info ++ ['\n'])

theorem readAll_fenceDocument {info : List Char} (h : '\n' ∉ info) :
    Line.readAll (fenceDocument info) = [Line.ofText 1 ("~~~ ".toList ++ info) true] := by
  have hline : '\n' ∉ "~~~ ".toList ++ info := by simpa using h
  rw [fenceDocument, ← List.append_assoc, Line.readAll, splitAt_append_break,
    splitAt_of_not_mem hline]
  rfl

theorem blocks_fenceDocument {info : List Char} (h : '\n' ∉ info) :
    (outline (fenceDocument info)).blocks = [.fence (' ' :: info) [] 1] := by
  rw [outline, readAll_fenceDocument h]
  rfl

end Markdown

/-- Some document has a sample in the language. -/
def IsNamed (tag : String) : Prop := ∃ source, scan source [tag] ≠ []

theorem isNamed_of_fenceLanguage {tag : String} (hself : fenceLanguage tag = tag)
    (hnull : '\x00' ∉ tag.toList) : IsNamed tag := by
  have hword := fenceLanguage_eq_self_iff.mp hself
  have hnot {c : Char} (hc : isBlank c = true) : c ∉ tag.toList := fun hm => by
    simp [hword c hm] at hc
  have hplain : ∀ c ∈ fenceDocument tag.toList, c ≠ '\r' ∧ c ≠ '\x00' := by
    intro c hc
    simp only [fenceDocument, List.mem_append] at hc
    rcases hc with hc | hc | hc
    · have hmark : "~~~ ".toList.all (fun c => c != '\r' && c != '\x00') = true := by decide
      simpa using List.all_eq_true.mp hmark c hc
    · exact ⟨fun he => hnot (by decide) (he ▸ hc), fun he => hnull (he ▸ hc)⟩
    · rw [List.mem_singleton.mp hc]
      decide
  have hlanguage : fenceLanguage (" " ++ tag) = tag := by
    have hinfo : (" " ++ tag).toList = ' ' :: tag.toList := by simp
    rw [fenceLanguage, hinfo, words_cons_blank (by decide)]
    exact hself
  refine ⟨String.ofList (fenceDocument tag.toList), ?_⟩
  rw [scan, String.toList_ofList, normalize_eq_self hplain, blocks_fenceDocument (hnot (by decide))]
  simp [fencesOf, Block.fences, hlanguage]

/-- Documents name the words without null characters, which none holds; without a word, a fence
names the empty language. -/
theorem isNamed_iff {tag : String} :
    IsNamed tag ↔ fenceLanguage tag = tag ∧ '\x00' ∉ tag.toList := by
  refine ⟨?_, fun h => isNamed_of_fenceLanguage h.1 h.2⟩
  rintro ⟨source, hsamples⟩
  obtain ⟨sample, hs⟩ := List.exists_mem_of_ne_nil _ hsamples
  have hlanguage : sample.language = tag := by
    rw [scan, List.mem_filterMap] at hs
    obtain ⟨fence, -, hf⟩ := hs
    dsimp only at hf
    split at hf
    next hmem =>
      cases hf
      simpa using hmem
    next => cases hf
  obtain ⟨number, -, hstands⟩ := standsAt_of_mem_scan hs
  obtain ⟨whole, info, hwhole, hopens, hinfo⟩ := hstands.opening
  rw [hlanguage] at hinfo
  subst hinfo
  refine ⟨fenceLanguage_of_not_blank (fenceLanguage_not_blank _), fun hnull => ?_⟩
  have hmem : '\x00' ∈ info := by
    have hword := mem_of_mem_fenceLanguage hnull
    rwa [String.toList_ofList] at hword
  exact (pass_normalize source.toList _ (mem_of_mem_line? hwhole (hopens.mem hmem))).2 rfl

/-! ### The languages that are asked for -/

namespace Options

/-- Nothing is wrong with some tags exactly if there are any and all of them are of use. -/
def AcceptsTags (tags : List String) : Prop :=
  languageProblems (tags.map .text) = [] ↔ tags ≠ [] ∧ ∀ tag ∈ tags, IsTag tag

theorem languageProblems_text (tags : List String) : languageProblems (tags.map .text) = [] ↔
    tags ≠ [] ∧ ∀ tag ∈ tags, IsTag tag ∨ IsBrokenTag tag := by
  simp only [languageProblems_eq_nil_iff, ne_eq, List.map_eq_nil_iff, List.forall_mem_map,
    languageProblem?_text]

/-- The tags that are accepted are those of use, unless one of them has a line feed behind it. Tags
of use are single words, and documents name all of them but those with null characters. -/
theorem acceptsTags_iff (tags : List String) :
    (AcceptsTags tags ↔
      (languageProblems (tags.map .text) = [] → ∀ tag ∈ tags, ¬ IsBrokenTag tag)) ∧
    (languageProblems (tags.map .text) = [] ↔
      tags ≠ [] ∧ ∀ tag ∈ tags, IsTag tag ∨ IsBrokenTag tag) ∧
    ∀ tag, (IsTag tag ↔ tag ≠ "" ∧ ∀ c ∈ tag.toList, isBlank c = false) ∧
      (IsTag tag → (IsNamed tag ↔ '\x00' ∉ tag.toList)) := by
  refine ⟨?_, languageProblems_text tags, fun tag => ⟨isTag_iff, fun htag => ?_⟩⟩
  · rw [AcceptsTags, languageProblems_text]
    constructor
    · exact fun h haccepted tag htag hbroken =>
        hbroken.not_isTag ((h.mp haccepted).2 tag htag)
    · intro h
      refine ⟨fun haccepted => ⟨haccepted.1, fun tag htag => ?_⟩, fun hall =>
        ⟨hall.1, fun tag htag => .inl (hall.2 tag htag)⟩⟩
      exact (haccepted.2 tag htag).resolve_right (h haccepted tag htag)
  · rw [isNamed_iff]
    exact and_iff_right htag.2

theorem acceptsTags_words : AcceptsTags ["py+test", "é"] ∧
    languageProblems (["py+test", "é"].map .text) = [] ∧ IsNamed "é" := by
  obtain ⟨haccepts, -, hwords⟩ := acceptsTags_iff ["py+test", "é"]
  have hnone : languageProblems (["py+test", "é"].map .text) = [] := by decide
  have hlast : ∀ tag ∈ ["py+test", "é"], tag.toList.getLast? ≠ some '\n' := by decide
  have hall : AcceptsTags ["py+test", "é"] := haccepts.mpr fun _ tag htag hbroken => by
    obtain ⟨word, -, rfl⟩ := hbroken
    exact hlast _ htag (by simp)
  have htag : IsTag "é" := (hall.mp hnone).2 "é" (by simp)
  exact ⟨hall, hnone, ((hwords "é").2 htag).mpr (by decide)⟩

/-- A tag with a line feed behind it is accepted, though no fence names it. -/
theorem not_acceptsTags_brokenTag : ¬ AcceptsTags ["a\n"] := by
  have haccepted : languageProblems (["a\n"].map .text) = [] := by decide
  intro h
  have htag := (h.mp haccepted).2 "a\n" List.mem_cons_self
  exact absurd htag.2 (by decide)

end Options

/-! ### Sets of texts -/

/-- All values are texts. -/
def Value.AllTexts (values : List Value) : Prop := ∀ value ∈ values, ∃ s, value = .text s

theorem Value.same_text (s : String) (value : Value) :
    Value.same (.text s) value = true ↔ value = .text s := by
  cases value with
  | text t =>
    simp only [same, beq_iff_eq, text.injEq]
    exact eq_comm
  | _ => simp [same]

theorem Value.mem_distinct {values : List Value} (h : AllTexts values) (value : Value) :
    value ∈ distinct values ↔ value ∈ values := by
  have run (kept : List Value) (hk : AllTexts kept) :
      value ∈ values.foldl (fun kept v => if kept.any fun w => same w v then kept else kept ++ [v])
        kept ↔ value ∈ kept ∨ value ∈ values := by
    induction values generalizing kept with
    | nil => simp
    | cons v values ih =>
      obtain ⟨hv, hvalues⟩ := List.forall_mem_cons.mp h
      rw [List.foldl_cons]
      split
      next hany =>
        obtain ⟨w, hw, hsame⟩ := List.any_eq_true.mp hany
        obtain ⟨s, rfl⟩ := hk w hw
        obtain rfl := (same_text s v).mp hsame
        have hin : value = .text s → value ∈ kept := fun he => he ▸ hw
        rw [ih hvalues kept hk, List.mem_cons, ← or_assoc, or_iff_left_of_imp hin]
      next =>
        rw [ih hvalues _ (List.forall_mem_append.mpr ⟨hk, by simpa using hv⟩)]
        simp [or_assoc]
  simpa [distinct] using run [] (by simp [AllTexts])

namespace Options

theorem setOf_texts {values : List Value} (h : Value.AllTexts values) :
    ∃ set, setOf values = .ok set ∧ ∀ value, value ∈ set ↔ value ∈ values := by
  have hfind : (values.find? fun value => !isElement value) = none := by
    rw [List.find?_eq_none]
    intro value hv
    obtain ⟨s, rfl⟩ := h value hv
    simp [isElement]
  have hmem (value : Value) :
      value ∈ sortByText Value.str (Value.distinct values) ↔ value ∈ values := by
    rw [sortByText, mem_sortBy, Value.mem_distinct h]
  exact ⟨_, by rw [setOf, hfind], hmem⟩

theorem allTexts_map (texts : List String) : Value.AllTexts (texts.map .text) := by
  simp [Value.AllTexts]

theorem ofEntries_file (path : String) {tags set : List Value} (h : setOf tags = .ok set) :
    ofEntries [("filename", .text path), ("languages", .set tags)] =
      .ok { filename := .text path, languages := set } := by
  have hmake : recordType.make [("filename", .text path), ("languages", .set tags)] =
      .ok [("name", .none), ("filename", .text path), ("output", .none), ("languages", .set tags),
        ("verbose", .bool false)] := by
    simp [RecordType.make, RecordType.missing, recordType, List.lookup_cons]
  have hset : (elements (valueOf [("name", .none), ("filename", .text path), ("output", .none),
      ("languages", .set tags), ("verbose", .bool false)] "languages") >>= setOf) = .ok set := h
  simp only [ofEntries, hmake, hset]
  rfl

/-- The options for a file ask for the default languages and for some more. -/
theorem ofFile_texts (path : String) (languages : List String) :
    ∃ set, (∀ value, value ∈ set ↔ value ∈ (defaultLanguages ++ languages).map .text) ∧
      ofFile path (.list (languages.map .text)) [] =
        .ok { filename := .text path, languages := set } := by
  obtain ⟨base, hbase, hbaseMem⟩ := setOf_texts (allTexts_map defaultLanguages)
  obtain ⟨more, hmore, hmoreMem⟩ := setOf_texts (allTexts_map languages)
  obtain ⟨set, hset, hsetMem⟩ :=
    setOf_texts (List.forall_mem_append.mpr
      ⟨fun value hv => allTexts_map _ value ((hbaseMem value).mp hv),
        fun value hv => allTexts_map _ value ((hmoreMem value).mp hv)⟩)
  refine ⟨set, fun value => ?_, ?_⟩
  · rw [hsetMem, List.mem_append, hbaseMem, hmoreMem, List.map_append, List.mem_append]
  · have hlanguages : (elements (.list (languages.map .text)) >>= setOf) = .ok more := hmore
    simp only [ofFile, List.lookup_nil, pure_bind, hbase, hlanguages]
    exact ofEntries_file path hset

/-- The default languages are in order, so nothing is wrong with them. -/
theorem problems_file (path : String) {languages : List String} {set : List Value}
    (hset : ∀ value, value ∈ set ↔ value ∈ (defaultLanguages ++ languages).map .text) :
    ({ filename := .text path, languages := set } : Options).problems = [] ↔
      path.toList.all isBlank = false ∧
        ∀ tag ∈ languages, languageProblem? (.text tag) = none := by
  have hne : set ≠ [] :=
    List.ne_nil_of_mem ((hset (.text "py+test")).mpr (by simp [defaultLanguages]))
  have hdefault : ∀ tag ∈ defaultLanguages, languageProblem? (.text tag) = none := by decide
  have hlanguages : languageProblems set = [] ↔
      ∀ tag ∈ languages, languageProblem? (.text tag) = none := by
    rw [languageProblems_eq_nil_iff, and_iff_right hne]
    simp only [hset, List.forall_mem_map, List.forall_mem_append, and_iff_right hdefault]
  simp only [problems, List.append_eq_nil_iff, hlanguages]
  simp [nameProblems, pathProblems]

theorem mem_languages_settings {options : Options} {tag : String} :
    tag ∈ options.settings.languages ↔ .text tag ∈ options.languages := by
  simp only [settings, List.mem_filterMap]
  constructor
  · rintro ⟨value, hv, ht⟩
    cases value with
    | text s => exact Option.some.inj ht ▸ hv
    | _ => cases ht
  · exact fun h => ⟨.text tag, h, rfl⟩

theorem checked_eq_ok {options : Options} (h : options.problems = []) :
    options.checked = .ok (options, options.settings) := by
  simp [checked, validate, h]

theorem not_succeeds_checked {options : Options} (h : options.problems ≠ []) :
    ¬ Succeeds options.checked := by
  simp [checked, validate, h]

end Options

end DocSuite
