import DocSuite.Manifest.Basic
import DocSuite.Proofs.LongInteger
import DocSuite.Proofs.Utf8

/-!
What a manifest file is taken for. A name is looked up through the tables of the document, and
each file leads to a manifest, to nothing or to a report that names the file. Main statement: this
fails exactly for files that are not text in UTF-8, for integers that are too long, and for
documents with something else where a table is expected on the way to a name.
-/
namespace DocSuite

open DocSuite.Text

/-! ### Values behind keys -/

/-- The value that keys lead to, through tables. -/
def Toml.Value.find? : Toml.Key → Toml.Value → Option Toml.Value
  | [], value => some value
  | name :: key, .table entries => (Table.get? entries name).bind (find? key)
  | _ :: _, _ => none

namespace Manifest

/-- There is something other than a table behind keys. -/
def NoTable (key : Toml.Key) (document : Toml.Value) : Prop :=
  ∃ value, document.find? key = some value ∧ ∀ table, value ≠ .table table

/-- There is a text behind keys. -/
def IsText (key : Toml.Key) (name : String) (document : Toml.Value) : Prop :=
  document.find? key = some (.text name)

/-- The name that a document declares: that of the project or, if the project has no name that is a
text, that of the packaging tool. -/
inductive Declares (document : Toml.Value) (name : String) : Prop
  | project (hname : name ≠ "") (hproject : IsText ["project", "name"] name document)
  | tool (hname : name ≠ "") (hproject : ∀ other, ¬ IsText ["project", "name"] other document)
      (htool : IsText ["tool", "poetry", "name"] name document)

/-- On the way to a name that is looked up there is something else where a table is expected. -/
def Misplaced (document : Toml.Value) : Prop :=
  NoTable ["project"] document ∨ (∀ name, ¬ IsText ["project", "name"] name document) ∧
    (NoTable ["tool"] document ∨ NoTable ["tool", "poetry"] document)

/-- A table behind a key holds what the keys that go on lead to; without the key, that is
nothing. -/
theorem tableAt_cases (key : String) (table : Toml.Table) :
    (∃ inner, tableAt key table = .ok inner ∧ ¬ NoTable [key] (.table table) ∧
      ∀ name path, (Toml.Value.table table).find? (key :: name :: path) =
        (Toml.Value.table inner).find? (name :: path)) ∨
    ∃ value, tableAt key table = .error (.noTable value) ∧ NoTable [key] (.table table) := by
  have hfind (path : Toml.Key) : (Toml.Value.table table).find? (key :: path) =
      (table.get? key).bind (Toml.Value.find? path) := rfl
  simp only [hfind, NoTable]
  unfold tableAt
  cases table.get? key with
  | none => exact .inl ⟨[], rfl, by simp, fun _ _ => rfl⟩
  | some value =>
    cases value with
    | table inner => exact .inl ⟨inner, rfl, by simp [Toml.Value.find?], fun _ _ => rfl⟩
    | _ => exact .inr ⟨_, rfl, _, rfl, by simp⟩

theorem isText_iff {key name : String} {table : Toml.Table} :
    IsText [key] name (.table table) ↔ textAt? key table = some name := by
  unfold IsText textAt? Toml.Value.find?
  cases table.get? key with
  | none => simp
  | some value => cases value <;> simp [Toml.Value.find?]

/-- What looking up the name of a document is to give. -/
inductive Named (document : Toml.Value) : Except ManifestFault (Option String) → Prop
  | declared {name : String} (hplaced : ¬ Misplaced document) (hname : Declares document name) :
      Named document (.ok (some name))
  | undeclared (hplaced : ¬ Misplaced document) (hname : ∀ name, ¬ Declares document name) :
      Named document (.ok none)
  | misplaced {value : Toml.Value} (hplaced : Misplaced document) :
      Named document (.error (.noTable value))

theorem named_filter {document : Toml.Value} {found : Option String}
    (hplaced : ¬ Misplaced document)
    (hfound : ∀ name, Declares document name ↔ name ≠ "" ∧ found = some name) :
    Named document (.ok (found.filter fun name => !name.isEmpty)) := by
  cases found with
  | none => exact .undeclared hplaced fun name => by simp [hfound]
  | some name =>
    by_cases hname : name = ""
    · subst hname
      exact .undeclared hplaced fun other => by
        rw [hfound]
        rintro ⟨hother, heq⟩
        exact hother (Option.some.inj heq).symm
    · rw [Option.filter_some_pos (by simpa using hname)]
      exact .declared hplaced ((hfound name).mpr ⟨hname, rfl⟩)

/-- The name of the project is not looked up further. -/
theorem named_project {table : Toml.Table} {name : String}
    (hplaced : ¬ NoTable ["project"] (.table table))
    (hname : IsText ["project", "name"] name (.table table)) :
    Named (.table table) (.ok ((some name).filter fun name => !name.isEmpty)) := by
  -- A text ends the search, an empty one too, so the other tables do not count.
  have hnot : ¬ ∀ other, ¬ IsText ["project", "name"] other (.table table) :=
    fun h => h name hname
  have hinj {other : String} (h : IsText ["project", "name"] other (.table table)) :
      name = other := by
    cases hname.symm.trans h
    rfl
  refine named_filter (fun h => h.elim hplaced fun h => hnot h.1) fun other =>
    ⟨fun h => ?_, fun ⟨hother, heq⟩ => .project hother (Option.some.inj heq ▸ hname)⟩
  cases h with
  | project hother h => exact ⟨hother, congrArg some (hinj h)⟩
  | tool _ h => exact absurd h hnot

/-- Without the name of a project, that of the packaging tool is looked up. -/
theorem named_tool {table : Toml.Table} (hplaced : ¬ NoTable ["project"] (.table table))
    (hname : ∀ name, ¬ IsText ["project", "name"] name (.table table)) :
    Named (.table table) (Option.filter (fun name => !name.isEmpty) <$>
      (textAt? "name" ·) <$> (tableAt "tool" table >>= tableAt "poetry")) := by
  rcases tableAt_cases "tool" table with
    ⟨tool, htool, htoolPlaced, hinTool⟩ | ⟨value, htool, htoolPlaced⟩
  · rw [htool]
    have hpoetryIff : NoTable ["tool", "poetry"] (.table table) ↔
        NoTable ["poetry"] (.table tool) := by
      rw [NoTable, NoTable, hinTool]
    show Named _ (_ <$> _ <$> tableAt "poetry" tool)
    rcases tableAt_cases "poetry" tool with
      ⟨poetry, hpoetry, hpoetryPlaced, hinPoetry⟩ | ⟨value, hpoetry, hpoetryPlaced⟩
    · rw [hpoetry]
      have htoolName (name : String) : IsText ["tool", "poetry", "name"] name (.table table) ↔
          textAt? "name" poetry = some name := by
        rw [← isText_iff, IsText, IsText, hinTool, hinPoetry]
      refine named_filter ?_ fun name => ⟨fun h => ?_, fun ⟨hname', heq⟩ => ?_⟩
      · rintro (h | ⟨-, h | h⟩)
        · exact hplaced h
        · exact htoolPlaced h
        · exact hpoetryPlaced (hpoetryIff.mp h)
      · cases h with
        | project _ h => exact absurd h (hname name)
        | tool hname' _ h => exact ⟨hname', (htoolName name).mp h⟩
      · exact .tool hname' hname ((htoolName name).mpr heq)
    · rw [hpoetry]
      exact .misplaced (.inr ⟨hname, .inr (hpoetryIff.mpr hpoetryPlaced)⟩)
  · rw [htool]
    exact .misplaced (.inr ⟨hname, .inl htoolPlaced⟩)

/-- The names of a document are looked up as they are declared. -/
theorem named_nameIn? (table : Toml.Table) : Named (.table table) (nameIn? table) := by
  rcases tableAt_cases "project" table with
    ⟨project, hproject, hplaced, hin⟩ | ⟨value, hproject, hplaced⟩
  · have hname (name : String) : IsText ["project", "name"] name (.table table) ↔
        textAt? "name" project = some name := by
      rw [← isText_iff, IsText, IsText, hin]
    cases htext : textAt? "name" project with
    | some name =>
      have hread : nameIn? table = .ok ((some name).filter fun name => !name.isEmpty) := by
        simp only [nameIn?, hproject, bind, Except.bind, htext]
        rfl
      rw [hread]
      exact named_project hplaced ((hname name).mpr htext)
    | none =>
      have hread : nameIn? table = Option.filter (fun name => !name.isEmpty) <$>
          (textAt? "name" ·) <$> (tableAt "tool" table >>= tableAt "poetry") := by
        simp only [nameIn?, hproject, bind, Except.bind, htext]
        cases tableAt "tool" table with
        | error fault => rfl
        | ok tool => cases tableAt "poetry" tool <;> rfl
      rw [hread]
      exact named_tool hplaced fun name => by simp [hname, htext]
  · have hread : nameIn? table = .error (.noTable value) := by
      simp only [nameIn?, hproject]
      rfl
    rw [hread]
    exact .misplaced (.inl hplaced)

/-! ### What is read of a file -/

/-- A report names the manifest file that it is about, and says what is wrong with it. -/
structure Blames (report : Report) (path : Path) (cause : String) : Prop where
  subject : report.subject = .manifest (some path.text)
  code : report.code = some "E300"
  message : report.message = s!"Cannot read package manifest {path.text}: {cause}"
  cause : report.cause = some cause
  context : path.text ≠ "" → report.context.lookup "manifest" = some (.text path.text)

theorem blames_refusal (path : Path) (cause : String) : Blames (refusal path cause) path cause where
  subject := rfl
  code := rfl
  message := rfl
  cause := rfl
  context h := by
    have hpath : path.text.isEmpty = false := by simpa using h
    simp only [refusal, Report.manifest, Report.ofDetails, hpath]
    exact lookup_setKey ..

/-- What reading a manifest file is to give: a file that cannot be read, or is not well-formed,
leads to a report that names it; otherwise the manifest says what the document declares. -/
inductive Reported (tree : FileTree) (path : Path) :
    Except ManifestFault (Option Manifest) → Prop
  | declared {text : List Char} {table : Toml.Table} {name : String}
      (hbytes : tree.read path = .ok (Utf8.encode text)) (htable : Toml.read text = .ok table)
      (hname : Declares (.table table) name) : Reported tree path (.ok (some ⟨name, path⟩))
  | undeclared {text : List Char} {table : Toml.Table}
      (hbytes : tree.read path = .ok (Utf8.encode text)) (htable : Toml.read text = .ok table)
      (hname : ∀ name, ¬ Declares (.table table) name) : Reported tree path (.ok none)
  | unreadable {fault : FileFault} {report : Report} (hfault : tree.read path = .error fault)
      (hreport : Blames report path fault.message) :
      Reported tree path (.error (.refused report))
  | malformed {text : List Char} {reason : Toml.Reason} {left : Nat} {report : Report}
      (hbytes : tree.read path = .ok (Utf8.encode text))
      (hfault : Toml.read text = .error (.malformed reason left))
      (hreport : Blames report path ((Toml.Fault.malformed reason left).message text)) :
      Reported tree path (.error (.refused report))

/-- What escapes is an error that is no report. -/
def Escapes : Except ManifestFault (Option Manifest) → Prop
  | .ok _ | .error (.refused _) => False
  | .error _ => True

instance : DecidablePred Escapes
  | .ok _ | .error (.refused _) => .isFalse id
  | .error (.encoding _) | .error (.longInteger _) | .error (.noTable _) => .isTrue trivial

theorem Reported.not_escapes {tree : FileTree} {path : Path}
    {answer : Except ManifestFault (Option Manifest)} (h : Reported tree path answer) :
    ¬ Escapes answer := by
  cases h <;> exact id

/-- No integer that is too long is met in a document, and nothing but tables where they are
expected. -/
def Plain (text : List Char) : Prop :=
  (∀ digits, Toml.read text ≠ .error (.longInteger digits)) ∧
    ∀ table, Toml.read text = .ok table → ¬ Misplaced (.table table)

/-- A file is a text in UTF-8, with a document without surprises, unless it cannot be read. -/
def Legible (tree : FileTree) (path : Path) : Prop :=
  ∀ bytes, tree.read path = .ok bytes → ∃ text, bytes = Utf8.encode text ∧ Plain text

/-- The text of a file leads to what it is to give, or one of two errors escapes. -/
theorem ofText?_cases {tree : FileTree} {path : Path} {text : List Char}
    (hbytes : tree.read path = .ok (Utf8.encode text)) :
    (Plain text ∧ Reported tree path (ofText? path text)) ∨
      (∃ digits message, Toml.read text = .error (.longInteger digits) ∧
        ofText? path text = .error (.longInteger message)) ∨
      ∃ table value, Toml.read text = .ok table ∧ Misplaced (.table table) ∧
        ofText? path text = .error (.noTable value) := by
  cases hread : Toml.read text with
  | error fault =>
    cases fault with
    | malformed reason left =>
      have hplain : Plain text := by simp [Plain, hread]
      simp only [ofText?, hread]
      exact .inl ⟨hplain, .malformed hbytes hread (blames_refusal ..)⟩
    | longInteger digits =>
      simp only [ofText?, hread]
      exact .inr (.inl ⟨digits, _, rfl, rfl⟩)
  | ok table =>
    have hplain (hplaced : ¬ Misplaced (.table table)) : Plain text := by
      simpa [Plain, hread] using hplaced
    have hnamed := named_nameIn? table
    simp only [ofText?, hread]
    generalize nameIn? table = answer at hnamed ⊢
    cases hnamed with
    | declared hplaced hname => exact .inl ⟨hplain hplaced, .declared hbytes hread hname⟩
    | undeclared hplaced hname => exact .inl ⟨hplain hplaced, .undeclared hbytes hread hname⟩
    | misplaced hplaced => exact .inr (.inr ⟨table, _, rfl, hplaced, rfl⟩)

theorem legible_iff {tree : FileTree} {path : Path} {text : List Char}
    (h : tree.read path = .ok (Utf8.encode text)) : Legible tree path ↔ Plain text := by
  constructor
  · intro hlegible
    obtain ⟨other, hsame, hplain⟩ := hlegible _ h
    have hdecode := Utf8.decode_eq_ok_iff.mpr hsame
    rw [Utf8.decode_encode] at hdecode
    exact Except.ok.inj hdecode ▸ hplain
  · intro hplain bytes hbytes
    rw [h] at hbytes
    exact ⟨text, (Except.ok.inj hbytes).symm, hplain⟩

/-- A file leads to what it is to give, or an error escapes. -/
theorem read?_cases (tree : FileTree) (path : Path) :
    (Legible tree path ∧ Reported tree path (read? tree path)) ∨
      ¬ Legible tree path ∧ Escapes (read? tree path) ∧
        ∀ message, read? tree path = .error (.longInteger message) → ∃ text digits,
          tree.read path = .ok (Utf8.encode text) ∧
            Toml.read text = .error (.longInteger digits) := by
  cases hread : tree.read path with
  | error fault =>
    simp only [read?, hread]
    have hlegible : Legible tree path := by simp [Legible, hread]
    exact .inl ⟨hlegible, .unreadable hread (blames_refusal ..)⟩
  | ok bytes =>
    cases hdecode : Utf8.decode bytes with
    | error fault =>
      -- Only encodings of texts can be decoded.
      have hnot : ¬ Legible tree path := by
        intro hlegible
        obtain ⟨text, hbytes, -⟩ := hlegible bytes hread
        rw [Utf8.decode_eq_ok_iff.mpr hbytes] at hdecode
        cases hdecode
      simp only [read?, hread, hdecode]
      exact .inr ⟨hnot, trivial, fun _ h => nomatch h⟩
    | ok text =>
      obtain rfl := Utf8.decode_eq_ok_iff.mp hdecode
      have hanswer : read? tree path = ofText? path text := by
        simp only [read?, hread, hdecode]
      rw [hanswer, legible_iff hread]
      obtain h | ⟨digits, message, hlong, h⟩ | ⟨table, value, htable, hplaced, h⟩ :=
        ofText?_cases hread
      · exact .inl h
      · rw [h]
        exact .inr ⟨fun hplain => hplain.1 digits hlong, trivial,
          fun _ _ => ⟨text, digits, rfl, hlong⟩⟩
      · rw [h]
        exact .inr ⟨fun hplain => hplain.2 table htable hplaced, trivial, fun _ h => nomatch h⟩

theorem legible_of_not_escapes {tree : FileTree} {path : Path}
    (h : ¬ Escapes (read? tree path)) : Legible tree path := by
  obtain ⟨hlegible, -⟩ | ⟨-, hescapes, -⟩ := read?_cases tree path
  · exact hlegible
  · exact absurd hescapes h

/-- Reading a manifest file gives what it is to give exactly if the file is a text in UTF-8
without integers that are too long, and with tables on the way to the names that are looked up. In
all other cases an error escapes that is no report; that is due to an integer only if the text holds
more digits in a row than an integer may have. -/
theorem read?_reported_iff (tree : FileTree) (path : Path) :
    (Reported tree path (read? tree path) ↔ Legible tree path) ∧
      (Escapes (read? tree path) ↔ ¬ Legible tree path) ∧
      ∀ message, read? tree path = .error (.longInteger message) → ∃ text digits,
        tree.read path = .ok (Utf8.encode text) ∧ Toml.longestInteger < digits ∧
          Toml.HoldsRun text digits := by
  obtain ⟨hlegible, hreported⟩ | ⟨hnot, hescapes, hlong⟩ := read?_cases tree path
  · have hnever := hreported.not_escapes
    refine ⟨iff_of_true hreported hlegible, iff_of_false hnever (· hlegible), fun message h => ?_⟩
    rw [h] at hreported
    cases hreported
  · refine ⟨iff_of_false (fun h => h.not_escapes hescapes) hnot, iff_of_true hescapes hnot,
      fun message h => ?_⟩
    obtain ⟨text, digits, hbytes, hread⟩ := hlong message h
    exact ⟨text, digits, hbytes, Toml.holdsRun_of_read hread⟩

/-- A name that is no text, and a second one. -/
theorem read?_reported_secondName :
    let path : Path := ⟨1, ["pyproject.toml"]⟩
    let text := "[project]\nname = 1\n[tool.poetry]\nname = 'legacy'\n".toList
    let tree : FileTree :=
      { working := ⟨1, []⟩, nodes := [(["pyproject.toml"], .file (Utf8.encode text))] }
    Legible tree path ∧ Reported tree path (read? tree path) ∧
      (read? tree path).toOption = some (some ⟨"legacy", path⟩) := by
  intro path text tree
  have hlegible : Legible tree path := legible_of_not_escapes (by decide +kernel)
  exact ⟨hlegible, (read?_reported_iff tree path).1.mpr hlegible, by decide +kernel⟩

/-- A byte that no text has, and a number in the place of a table. -/
theorem not_reported_brokenManifest :
    let path : Path := ⟨1, ["pyproject.toml"]⟩
    let tree (bytes : List Nat) : FileTree :=
      { working := ⟨1, []⟩, nodes := [(["pyproject.toml"], .file bytes)] }
    ∀ bytes ∈ [[0xff], Utf8.encode "project = 1".toList],
      (tree bytes).read path = .ok bytes ∧
        ¬ Reported (tree bytes) path (read? (tree bytes) path) := by
  intro path tree
  have hescapes : ∀ bytes ∈ [[0xff], Utf8.encode "project = 1".toList],
      Escapes (read? (tree bytes) path) := by decide +kernel
  exact fun bytes hbytes => ⟨rfl, fun h => h.not_escapes (hescapes bytes hbytes)⟩

end Manifest

end DocSuite
