import DocSuite.Proofs.Delay
import DocSuite.Proofs.Split
import Mathlib.Data.List.TakeWhile

/-!
Comments in which expectations start: blanks, a marker, one more blank, and the first line of the
expected text. Main statement: a comment starts an expectation exactly if it can be taken apart so,
there is only one way to do it, and what is read from the comments is the text that was written.
-/
namespace DocSuite.Expectation

open DocSuite.Text

/-! ### Markers -/

/-- The letters of the name of an error. -/
@[ext] structure ErrorName where
  letters : List Char
  ascii : ∀ c ∈ letters, isAsciiLetter c = true
  ending : errorEnding <:+ letters

inductive Marker
  | value
  | error (name : ErrorName)

namespace Marker

def chars : Marker → List Char
  | value => ['=', '>']
  | error name => name.letters ++ [':']

def kind : Marker → Kind
  | value => .value
  | error _ => .error

/-- The expectation of a text behind the marker. -/
def expectation (text : String) : Marker → Expectation
  | value => .value text
  | error name => .error (String.ofList name.letters) text

end Marker

/-- A comment in which an expectation starts. -/
@[ext] structure Opening where
  blanks : List Char
  marker : Marker
  blank : Char
  text : List Char
  all_blank : ∀ c ∈ blanks, isBlank c = true
  is_blank : isBlank blank = true

def Opening.chars (opening : Opening) : List Char :=
  opening.blanks ++ (opening.marker.chars ++ opening.blank :: opening.text)

/-- The comment as it is written. -/
def Opening.comment (opening : Opening) : String := String.ofList opening.chars

theorem Opening.toList_comment (opening : Opening) : opening.comment.toList = opening.chars :=
  String.toList_ofList

theorem Opening.comment_eq_iff {opening : Opening} {comment : String} :
    opening.comment = comment ↔ opening.chars = comment.toList := by
  rw [← String.toList_inj, toList_comment]

/-! ### Characters of comments -/

theorem isBlank_of_isAsciiLetter {c : Char} (h : isAsciiLetter c = true) : isBlank c = false := by
  simp only [isAsciiLetter, Bool.or_eq_true, Bool.and_eq_true, decide_eq_true_eq, Char.le_def,
    UInt32.le_iff_toNat_le] at h
  have hn : 65 ≤ c.toNat ∧ c.toNat ≤ 122 := by
    have ha : 'a'.val.toNat = 97 ∧ 'z'.val.toNat = 122 ∧ 'A'.val.toNat = 65 ∧ 'Z'.val.toNat = 90 :=
      ⟨rfl, rfl, rfl, rfl⟩
    change 65 ≤ c.val.toNat ∧ c.val.toNat ≤ 122
    omega
  simp only [isBlank, Bool.or_eq_false_iff, Bool.and_eq_false_iff, decide_eq_false_iff_not,
    beq_eq_false_iff_ne]
  omega

namespace ErrorName

variable (name : ErrorName) (rest : List Char)

theorem exists_letters_eq :
    ∃ first rest, name.letters = first :: rest ∧ isAsciiLetter first = true := by
  cases hl : name.letters with
  | nil =>
    have hending := name.ending
    rw [hl, List.suffix_nil] at hending
    cases hending
  | cons first rest => exact ⟨first, rest, rfl, name.ascii first (hl ▸ List.mem_cons_self)⟩

theorem takeWhile_append_colon :
    (name.letters ++ ':' :: rest).takeWhile isAsciiLetter = name.letters := by
  rw [List.takeWhile_append_of_pos name.ascii, List.takeWhile_cons_of_neg (by decide),
    List.append_nil]

theorem dropWhile_append_colon :
    (name.letters ++ ':' :: rest).dropWhile isAsciiLetter = ':' :: rest := by
  rw [List.dropWhile_append_of_pos name.ascii, List.dropWhile_cons_of_neg (by decide)]

end ErrorName

/-- Blanks end where the marker starts. -/
theorem Marker.exists_chars_eq (marker : Marker) :
    ∃ first rest, marker.chars = first :: rest ∧ isBlank first = false := by
  cases marker with
  | value => exact ⟨'=', ['>'], rfl, rfl⟩
  | error name =>
    obtain ⟨first, rest, hl, hfirst⟩ := name.exists_letters_eq
    refine ⟨first, rest ++ [':'], ?_, isBlank_of_isAsciiLetter hfirst⟩
    rw [chars, hl, List.cons_append]

namespace Opening

variable (opening : Opening)

theorem trimLeft_chars :
    trimLeft opening.chars = opening.marker.chars ++ opening.blank :: opening.text := by
  obtain ⟨first, rest, hchars, hfirst⟩ := opening.marker.exists_chars_eq
  rw [trimLeft, Opening.chars, List.dropWhile_append_of_pos opening.all_blank, hchars,
    List.cons_append, List.dropWhile_cons_of_neg (by simp [hfirst])]

theorem takeWhile_isBlank_chars : opening.chars.takeWhile isBlank = opening.blanks := by
  obtain ⟨first, rest, hchars, hfirst⟩ := opening.marker.exists_chars_eq
  rw [Opening.chars, List.takeWhile_append_of_pos opening.all_blank, hchars, List.cons_append,
    List.takeWhile_cons_of_neg (by simp [hfirst]), List.append_nil]

end Opening

/-! ### Reading a comment -/

theorem valueText?_iff {comment text : List Char} :
    valueText? comment = some text ↔
      ∃ opening : Opening, opening.chars = comment ∧ opening.marker = .value ∧
        opening.text = text := by
  constructor
  · intro h
    unfold valueText? at h
    split at h
    next blank rest hrest =>
      split at h
      next hblank =>
        cases h
        refine ⟨⟨comment.takeWhile isBlank, .value, blank, text, ?_, hblank⟩, ?_, rfl, rfl⟩
        · exact fun c hc => List.mem_takeWhile_imp hc
        · rw [Opening.chars, Marker.chars, List.cons_append, List.cons_append, List.nil_append,
            ← hrest, trimLeft, List.takeWhile_append_dropWhile]
      next => cases h
    next => cases h
  · rintro ⟨opening, rfl, hmarker, rfl⟩
    rw [valueText?, opening.trimLeft_chars, hmarker]
    exact if_pos opening.is_blank

theorem errorText?_iff {comment name text : List Char} :
    errorText? comment = some (name, text) ↔
      ∃ (opening : Opening) (letters : ErrorName), opening.chars = comment ∧
        opening.marker = .error letters ∧ letters.letters = name ∧ opening.text = text := by
  constructor
  · intro h
    simp only [errorText?] at h
    split at h
    next blank rest hrest =>
      split at h
      next hname =>
        rw [Bool.and_eq_true, List.isSuffixOf_iff_suffix] at hname
        obtain ⟨hending, hblank⟩ := hname
        cases h
        let letters : ErrorName :=
          ⟨(trimLeft comment).takeWhile isAsciiLetter, fun c hc => List.mem_takeWhile_imp hc,
            hending⟩
        refine ⟨⟨comment.takeWhile isBlank, .error letters, blank, text, ?_, hblank⟩, letters, ?_,
          rfl, rfl, rfl⟩
        · exact fun c hc => List.mem_takeWhile_imp hc
        · rw [Opening.chars, Marker.chars, List.append_assoc, List.singleton_append, ← hrest,
            List.takeWhile_append_dropWhile, trimLeft, List.takeWhile_append_dropWhile]
      next => cases h
    next => cases h
  · rintro ⟨opening, letters, rfl, hmarker, rfl, rfl⟩
    have hchars : trimLeft opening.chars =
        letters.letters ++ ':' :: opening.blank :: opening.text := by
      rw [opening.trimLeft_chars, hmarker, Marker.chars, List.append_assoc, List.singleton_append]
    have hending : errorEnding.isSuffixOf letters.letters = true :=
      List.isSuffixOf_iff_suffix.mpr letters.ending
    simp only [errorText?, hchars, letters.takeWhile_append_colon, letters.dropWhile_append_colon,
      hending, opening.is_blank, Bool.and_true, if_true]

/-! ### One way to take a comment apart -/

/-- The marker ends where the blank behind it stands. -/
theorem Marker.append_inj {marker other : Marker} {blank otherBlank : Char}
    {text otherText : List Char}
    (h : marker.chars ++ blank :: text = other.chars ++ otherBlank :: otherText) :
    marker = other ∧ blank = otherBlank ∧ text = otherText := by
  have hequals (name : ErrorName) {rest tail : List Char} :
      '=' :: rest ≠ name.letters ++ [':'] ++ tail := by
    obtain ⟨first, letters, hl, hfirst⟩ := name.exists_letters_eq
    rw [hl]
    intro heq
    rw [← (List.cons.inj heq).1] at hfirst
    revert hfirst
    decide
  cases marker with
  | value =>
    cases other with
    | value =>
      have htail := List.append_cancel_left h
      exact ⟨rfl, List.cons.inj htail⟩
    | error name => exact absurd h (hequals name)
  | error name =>
    cases other with
    | value => exact absurd h.symm (hequals name)
    | error otherName =>
      simp only [chars, List.append_assoc, List.singleton_append] at h
      have hname := congrArg (List.takeWhile isAsciiLetter) h
      rw [name.takeWhile_append_colon, otherName.takeWhile_append_colon] at hname
      have hrest := congrArg (List.dropWhile isAsciiLetter) h
      rw [name.dropWhile_append_colon, otherName.dropWhile_append_colon] at hrest
      have htail := (List.cons.inj hrest).2
      exact ⟨by rw [ErrorName.ext hname], List.cons.inj htail⟩

theorem Opening.chars_injective : Function.Injective Opening.chars := by
  intro opening other h
  have hblanks := congrArg (List.takeWhile isBlank) h
  rw [opening.takeWhile_isBlank_chars, other.takeWhile_isBlank_chars] at hblanks
  have hrest := congrArg trimLeft h
  rw [opening.trimLeft_chars, other.trimLeft_chars] at hrest
  obtain ⟨hmarker, hblank, htext⟩ := Marker.append_inj hrest
  exact Opening.ext hblanks hmarker hblank htext

/-! ### Kinds of comments -/

theorem kind?_comment (opening : Opening) :
    kind? opening.comment = some opening.marker.kind := by
  rw [kind?, opening.toList_comment]
  cases hmarker : opening.marker with
  | value =>
    rw [valueText?_iff.mpr ⟨opening, rfl, hmarker, rfl⟩]
    rfl
  | error name =>
    have hvalue : valueText? opening.chars = none := by
      rw [Option.eq_none_iff_forall_ne_some]
      intro text htext
      obtain ⟨other, hother, hvalue, -⟩ := valueText?_iff.mp htext
      rw [Opening.chars_injective hother, hmarker] at hvalue
      cases hvalue
    rw [hvalue, errorText?_iff.mpr ⟨opening, name, rfl, hmarker, rfl, rfl⟩]
    rfl

theorem kind?_iff {comment : String} {kind : Kind} :
    kind? comment = some kind ↔
      ∃ opening : Opening, opening.comment = comment ∧ opening.marker.kind = kind := by
  constructor
  · intro h
    unfold kind? at h
    split at h
    next hvalue =>
      obtain ⟨text, htext⟩ := Option.isSome_iff_exists.mp hvalue
      obtain ⟨opening, hchars, hmarker, -⟩ := valueText?_iff.mp htext
      exact ⟨opening, Opening.comment_eq_iff.mpr hchars, by rw [hmarker, ← Option.some.inj h]; rfl⟩
    next =>
      split at h
      next herror =>
        obtain ⟨⟨name, text⟩, htext⟩ := Option.isSome_iff_exists.mp herror
        obtain ⟨opening, letters, hchars, hmarker, -⟩ := errorText?_iff.mp htext
        refine ⟨opening, Opening.comment_eq_iff.mpr hchars, ?_⟩
        rw [hmarker, ← Option.some.inj h]
        rfl
      next => cases h
  · rintro ⟨opening, rfl, rfl⟩
    exact kind?_comment opening

theorem Kind.ofText?_eq_some_iff {text : String} {kind : Kind} :
    Kind.ofText? text = some kind ↔ kind.text = text := by
  constructor
  · intro h
    unfold Kind.ofText? at h
    split at h
    next htext => rw [htext, Option.some.inj h]
    next =>
      split at h
      next htext => rw [htext, Option.some.inj h]
      next => cases h
  · rintro rfl
    cases kind <;> decide

/-- What is read from comments of which the first starts an expectation. -/
theorem ofComments_comment (opening : Opening) (others : List String) :
    ofComments (opening.comment :: others) opening.marker.kind.text =
      .ok (opening.marker.expectation (textOf opening.text others)) := by
  have hkind : Kind.ofText? opening.marker.kind.text = some opening.marker.kind :=
    Kind.ofText?_eq_some_iff.mpr rfl
  simp only [ofComments, hkind, opening.toList_comment]
  cases hmarker : opening.marker with
  | value =>
    simp only [Marker.kind, valueText?_iff.mpr ⟨opening, rfl, hmarker, rfl⟩]
    rfl
  | error name =>
    simp only [Marker.kind, errorText?_iff.mpr ⟨opening, name, rfl, hmarker, rfl, rfl⟩]
    rfl

theorem kind?_of_ofComments {first : String} {others : List String} {kind : Kind} {e : Expectation}
    (h : ofComments (first :: others) kind.text = .ok e) : kind? first = some kind := by
  have hkind : Kind.ofText? kind.text = some kind := Kind.ofText?_eq_some_iff.mpr rfl
  rw [kind?_iff]
  cases kind with
  | value =>
    simp only [ofComments, hkind] at h
    split at h
    next text htext =>
      obtain ⟨opening, hchars, hmarker, -⟩ := valueText?_iff.mp htext
      exact ⟨opening, Opening.comment_eq_iff.mpr hchars, by rw [hmarker]; rfl⟩
    next => cases h
  | error =>
    simp only [ofComments, hkind] at h
    split at h
    next name text htext =>
      obtain ⟨opening, letters, hchars, hmarker, -⟩ := errorText?_iff.mp htext
      exact ⟨opening, Opening.comment_eq_iff.mpr hchars, by rw [hmarker]; rfl⟩
    next => cases h

/-- Comments can be read as the kind that the first of them starts, and as no other. -/
theorem succeeds_ofComments (first : String) (others : List String) (kind : String) :
    Succeeds (ofComments (first :: others) kind) ↔ (kind? first).map Kind.text = some kind := by
  constructor
  · rintro ⟨e, he⟩
    cases hkind : Kind.ofText? kind with
    | none =>
      simp only [ofComments, hkind] at he
      cases he
    | some known =>
      obtain rfl := Kind.ofText?_eq_some_iff.mp hkind
      rw [kind?_of_ofComments he, Option.map_some]
  · intro h
    obtain ⟨known, hknown, rfl⟩ := Option.map_eq_some_iff.mp h
    exact ofComments_isOk hknown others

/-- What trails an expression is read, whenever its first comment starts an expectation. -/
theorem ofTrailing?_eq_some_iff {first : String} {others : List String} {e : Expectation} :
    ofTrailing? (first :: others) = some e ↔
      ∃ kind, kind? first = some kind ∧ ofComments (first :: others) kind.text = .ok e := by
  cases hkind : kind? first with
  | none => simp [ofTrailing?, hkind]
  | some kind =>
    obtain ⟨known, hknown⟩ := ofComments_isOk hkind others
    simp [ofTrailing?, hkind, hknown, Except.toOption]

/-! ### Comments that continue -/

/-- A further line of the expected text, in a comment of its own behind any character. -/
structure Continued where
  mark : Char
  line : String

def Continued.comment (continued : Continued) : String :=
  String.singleton continued.mark ++ continued.line

theorem continuation_comment (continued : Continued) :
    continuation continued.comment = continued.line := by
  rw [continuation, Continued.comment, String.toList_append, String.toList_singleton,
    List.singleton_append, List.drop_one, List.tail_cons, String.ofList_toList]

/-- An expected text in the comments that hold it. -/
structure Written where
  opening : Opening
  others : List Continued

namespace Written

def comments (written : Written) : List String :=
  written.opening.comment :: written.others.map Continued.comment

def lines (written : Written) : List String :=
  String.ofList written.opening.text :: written.others.map Continued.line

def text (written : Written) : String := "\n".intercalate written.lines

theorem textOf_eq (written : Written) :
    textOf written.opening.text (written.others.map Continued.comment) = written.text := by
  have hlines : (written.others.map Continued.comment).map continuation =
      written.others.map Continued.line := by
    rw [List.map_map]
    exact List.map_congr_left fun continued _ => continuation_comment continued
  rw [textOf, hlines, text, lines]

/-- The lines can be told apart again if none of them holds a break. -/
theorem splitAt_text {written : Written} (h : ∀ line ∈ written.lines, '\n' ∉ line.toList) :
    splitAt '\n' written.text.toList = written.lines.map String.toList := by
  have hbreak : "\n".toList = ['\n'] := rfl
  have hne : written.lines.map String.toList ≠ [] := by simp [lines]
  rw [text, String.toList_intercalate, hbreak]
  exact splitAt_intercalate hne (List.forall_mem_map.mpr h)

end Written

/-- Comments can be read as the kind that their first one starts, and as no other; what is read is
the text that was written, line by line. A comment starts an expectation exactly if it is an
opening, and it is one opening only. -/
theorem comments_readBack :
    (∀ (first : String) (others : List String) (kind : String),
      Succeeds (ofComments (first :: others) kind) ↔ (kind? first).map Kind.text = some kind) ∧
    (∀ (first : String) (others : List String) (e : Expectation),
      ofTrailing? (first :: others) = some e ↔
        ∃ kind, kind? first = some kind ∧ ofComments (first :: others) kind.text = .ok e) ∧
    (∀ written : Written,
      ofComments written.comments written.opening.marker.kind.text =
          .ok (written.opening.marker.expectation written.text) ∧
        ((∀ line ∈ written.lines, '\n' ∉ line.toList) →
          splitAt '\n' written.text.toList = written.lines.map String.toList)) ∧
    (∀ (comment : String) (kind : Kind), kind? comment = some kind ↔
      ∃ opening : Opening, opening.comment = comment ∧ opening.marker.kind = kind) ∧
    Function.Injective Opening.comment := by
  refine ⟨succeeds_ofComments, fun first others e => ofTrailing?_eq_some_iff, ?_, ?_, ?_⟩
  · intro written
    refine ⟨?_, Written.splitAt_text⟩
    rw [Written.comments, ofComments_comment, written.textOf_eq]
  · exact fun comment kind => kind?_iff
  · intro opening other h
    rw [Opening.comment_eq_iff, other.toList_comment] at h
    exact Opening.chars_injective h

namespace MarkersInText

/-- An error whose name and message look like further markers. -/
def written : Written where
  opening := {
    blanks := ['\u00A0', '\t']
    marker := .error ⟨"ErrorError".toList, List.all_eq_true.mp (by decide), by decide⟩
    blank := '\u2003'
    text := " KeyError: => 1".toList
    all_blank := List.all_eq_true.mp (by decide)
    is_blank := by decide }
  others := [⟨'#', "=> 2"⟩, ⟨' ', ""⟩]

end MarkersInText

theorem comments_readBack_markersInText :
    (∀ line ∈ MarkersInText.written.lines, '\n' ∉ line.toList) ∧
      MarkersInText.written.comments = ["\u00A0\tErrorError:\u2003 KeyError: => 1", "#=> 2", " "] ∧
      ofComments MarkersInText.written.comments "error" =
        .ok (.error "ErrorError" " KeyError: => 1\n=> 2\n") ∧
      splitAt '\n' MarkersInText.written.text.toList =
        [" KeyError: => 1".toList, "=> 2".toList, []] := by
  have hlines : ∀ line ∈ MarkersInText.written.lines, '\n' ∉ line.toList := by decide
  obtain ⟨hread, hsplit⟩ := comments_readBack.2.2.1 MarkersInText.written
  exact ⟨hlines, by decide, hread, hsplit hlines⟩

end DocSuite.Expectation
