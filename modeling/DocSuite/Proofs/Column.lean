import DocSuite.Proofs.CommentPlace
import DocSuite.Proofs.Outcome

/-!
Columns of bytes and of characters. Main statement: a place between two characters of a line is
converted exactly, one inside of a character is refused, and converted places of statements compare
with those of comments as they stand in the text.
-/
namespace DocSuite.Text.Utf8

variable {cs read more : List Char} {count : Nat}

/-! ### Characters and their bytes -/

theorem size_append (as bs : List Char) : size (as ++ bs) = size as + size bs := by
  simp [size]

theorem size_pos_iff (cs : List Char) : 0 < size cs ↔ 0 < cs.length := by
  cases cs with
  | nil => exact Iff.rfl
  | cons c cs =>
    have := width_pos c
    rw [size_cons, List.length_cons]
    omega

/-- Of two first parts of a text, the one with fewer bytes has fewer characters. -/
theorem size_lt_size_iff (h : read <+: cs) (h' : more <+: cs) :
    size read < size more ↔ read.length < more.length := by
  rcases List.prefix_or_prefix_of_prefix h h' with ⟨rest, rfl⟩ | ⟨rest, rfl⟩
  · have hrest := size_pos_iff rest
    rw [size_append, List.length_append]
    omega
  · rw [size_append, List.length_append]
    omega

/-- The first bytes of a text end inside of a character. -/
def Splits (cs : List Char) (count : Nat) : Prop :=
  ∃ read c rest, cs = read ++ c :: rest ∧ size read < count ∧ count < size read + width c

theorem take_encode_of_prefix (h : read <+: cs) : (encode cs).take (size read) = encode read := by
  obtain ⟨rest, rfl⟩ := h
  rw [encode_append]
  exact List.take_left' rfl

/-- The character in which the first bytes of a text end, or which is the next one. -/
theorem exists_character (h : count < size cs) : ∃ read c rest, cs = read ++ c :: rest ∧
    size read ≤ count ∧ count < size read + width c := by
  induction cs generalizing count with
  | nil => cases h
  | cons d cs ih =>
    rw [size_cons] at h
    rcases Nat.lt_or_ge count (width d) with hlt | hge
    · exact ⟨[], d, cs, rfl, Nat.zero_le _, by simpa [size] using hlt⟩
    · have hrest : count - width d < size cs := by omega
      obtain ⟨read, c, rest, rfl, hle, hlt⟩ := ih hrest
      refine ⟨d :: read, c, rest, rfl, ?_, ?_⟩ <;> rw [size_cons] <;> omega

theorem not_cuts_iff : ¬ Cuts cs count ↔ Splits cs count := by
  constructor
  · intro h
    rcases Nat.lt_or_ge count (size cs) with hlt | hge
    · obtain ⟨read, c, rest, rfl, hle, hlt⟩ := exists_character hlt
      refine ⟨read, c, rest, rfl, Nat.lt_of_le_of_ne hle fun he => h ?_, hlt⟩
      have hread := List.prefix_append read (c :: rest)
      exact ⟨read, hread, he ▸ take_encode_of_prefix hread⟩
    · exact absurd ⟨cs, List.prefix_rfl, List.take_of_length_le hge⟩ h
  · -- A first part of so many bytes would have more characters than `read`, and fewer than
    -- `read` with the next one.
    rintro ⟨read, c, rest, rfl, hlow, hhigh⟩ ⟨found, hfound, he⟩
    have hsize : size found = count := by
      have hlen := congrArg List.length he
      rw [List.length_take, ← size, ← size, size_append, size_cons] at hlen
      omega
    have hread := List.prefix_append read (c :: rest)
    have hmore : read ++ [c] <+: read ++ c :: rest := ⟨rest, by simp⟩
    have hlonger := (size_lt_size_iff hread hfound).mp (by omega)
    have hshorter := (size_lt_size_iff hfound hmore).mp (by
      rw [size_append, size_cons]
      omega)
    rw [List.length_append, List.length_singleton] at hshorter
    omega

end DocSuite.Text.Utf8

namespace DocSuite.Syntax

open DocSuite.Text

/-! ### Places of a line -/

section

variable {lines : List (List Char)} {n column : Nat} {line read : List Char} {a b a' b' : Position}

theorem characterPosition_of_take (h : lines[n]? = some line)
    (ht : (Utf8.encode line).take column = Utf8.encode read) :
    characterPosition lines ⟨n + 1, column⟩ = .ok ⟨n + 1, read.length⟩ := by
  simp only [characterPosition, h, ht, Utf8.decode_encode]
  rfl

/-- How the places of a line in bytes become places in characters. -/
structure Converts (lines : List (List Char)) (number : Nat) (line : List Char) : Prop where
  between : ∀ read, read <+: line →
    characterPosition lines ⟨number, Utf8.size read⟩ = .ok ⟨number, read.length⟩
  behind : ∀ column, Utf8.size line ≤ column →
    characterPosition lines ⟨number, column⟩ = .ok ⟨number, line.length⟩
  refused_iff : ∀ column,
    ¬ Succeeds (characterPosition lines ⟨number, column⟩) ↔ Utf8.Splits line column

theorem converts_line (h : lines[n]? = some line) : Converts lines (n + 1) line where
  between _ hread := characterPosition_of_take h (Utf8.take_encode_of_prefix hread)
  behind _ hsize := characterPosition_of_take h (List.take_of_length_le hsize)
  refused_iff column := by
    rw [succeeds_characterPosition, h, ← Utf8.not_cuts_iff]
    simp

/-- A place in bytes between two characters of a line, or at one of its ends. -/
def IsBetween (lines : List (List Char)) (place : Position) : Prop :=
  ∃ n line read, lines[n]? = some line ∧ read <+: line ∧ place = ⟨n + 1, Utf8.size read⟩

theorem IsBetween.exists_characterPosition (h : IsBetween lines a) :
    ∃ place, characterPosition lines a = .ok place := by
  obtain ⟨n, line, read, hn, hread, rfl⟩ := h
  exact ⟨_, (converts_line hn).between read hread⟩

/-- Places between characters are in the same order before and behind the conversion. -/
theorem characterPosition_before_iff (ha : IsBetween lines a) (hb : IsBetween lines b)
    (ha' : characterPosition lines a = .ok a') (hb' : characterPosition lines b = .ok b') :
    a'.before b' = true ↔ a.before b = true := by
  obtain ⟨m, line, read, hm, hread, rfl⟩ := ha
  obtain ⟨n, other, more, hn, hmore, rfl⟩ := hb
  rw [(converts_line hm).between read hread] at ha'
  rw [(converts_line hn).between more hmore] at hb'
  obtain rfl := Except.ok.inj ha'
  obtain rfl := Except.ok.inj hb'
  rw [Position.before_iff, Position.before_iff]
  refine or_congr Iff.rfl (and_congr_right fun he => ?_)
  obtain rfl : m = n := Nat.succ.inj he
  rw [hm, Option.some.injEq] at hn
  subst hn
  exact (Utf8.size_lt_size_iff hread hmore).symm

end

/-! ### Statements and comments -/

/-- Two places compare as two numbers of characters do. -/
def SameOrder (a b : Position) (i j : Nat) : Prop :=
  (a.before b = true ↔ i < j) ∧ (b.before a = true ↔ j < i)

theorem charPlace_before_iff {text : List Char} {i j : Nat} (hi : i ≤ text.length)
    (hj : j ≤ text.length) :
    (charPlace (text.take i)).before (charPlace (text.take j)) = true ↔ i < j := by
  refine ⟨fun h => ?_, fun h => charPlace_take_before text h hj⟩
  rcases Nat.lt_or_ge i j with hlt | hge
  · exact hlt
  · exact absurd (charPlace_take_upTo text hge hi) (Position.not_upTo_of_before h)

/-- The span of a statement, which goes from one number of characters of a text to another. -/
structure Covers (text : List Char) (stmt : Stmt) (first stop : Nat) : Prop where
  lt : first < stop
  le : stop ≤ text.length
  span : stmt.site.span = ⟨bytePlace (text.take first), bytePlace (text.take stop)⟩

/-- The ends of a statement's span in characters compare with the place of a comment as they stand
in the text. -/
def ComparesAsText (source : List Char) (stmt : Stmt) (span : Span) (comment : Comment) : Prop :=
  ∃ first stop hash, Covers (Source.normalize source) stmt first stop ∧
    StartsAt source comment hash ∧ SameOrder span.start comment.place first hash ∧
      SameOrder span.stop comment.place stop hash

theorem exists_inCharacters {source : List Char} {body : List Stmt} (hr : '\r' ∉ source)
    (hp : parseText source = .ok body) {stmt : Stmt} (hs : stmt ∈ nodesOf body) :
    ∃ span, stmt.site.span.inCharacters (splitAt '\n' source) = .ok span :=
  (succeeds_attachComments source [] body).mp (Sample.succeeds_attach_read hr hp []) stmt hs

theorem comparesAsText {source : List Char} {body : List Stmt} {comments : List Comment}
    (hr : '\r' ∉ source) (hp : parseText source = .ok body)
    (hc : readComments source = .ok comments) {stmt : Stmt} (hs : stmt ∈ nodesOf body) {span : Span}
    (hspan : stmt.site.span.inCharacters (splitAt '\n' source) = .ok span) {comment : Comment}
    (hm : comment ∈ comments) : ComparesAsText source stmt span comment := by
  obtain ⟨-, -, entries, hf⟩ := Grammar.parseText_ok hp
  obtain ⟨first, stop, hlt, hle, hbytes⟩ := hf.span hs
  obtain ⟨hash, hstarts⟩ := exists_startsAt hc comment hm
  -- The text that is parsed is the source, up to a line end behind it.
  have htake : (Source.normalize source).take hash = source.take hash := by
    rcases normalize_eq_or hr with hn | hn
    · rw [hn]
    · rw [hn, List.take_append_of_le_length (Nat.le_of_lt hstarts.lt)]
  have hlength : source.length ≤ (Source.normalize source).length := by
    rcases normalize_eq_or hr with hn | hn <;> simp [hn]
  have hhash : hash ≤ (Source.normalize source).length := by
    have := hstarts.lt
    omega
  rw [hbytes, Span.inCharacters_eq_ok_iff, characterPosition_take hr, characterPosition_take hr,
    Except.ok.injEq, Except.ok.injEq] at hspan
  refine ⟨first, stop, hash, ⟨hlt, hle, hbytes⟩, hstarts, ?_, ?_⟩
  · rw [← hspan.1, hstarts.place, ← htake]
    exact ⟨charPlace_before_iff (by omega) hhash, charPlace_before_iff hhash (by omega)⟩
  · rw [← hspan.2, hstarts.place, ← htake]
    exact ⟨charPlace_before_iff hle hhash, charPlace_before_iff hhash hle⟩

/-- Columns of bytes are converted exactly, and where lines end at line feeds alone, statements
compare with comments as they stand in the text. -/
theorem characterPosition_exact (source : List Char) :
    (∀ n line, (splitAt '\n' source)[n]? = some line →
      Converts (splitAt '\n' source) (n + 1) line) ∧
    (∀ a b, IsBetween (splitAt '\n' source) a → IsBetween (splitAt '\n' source) b →
      ∃ a' b', characterPosition (splitAt '\n' source) a = .ok a' ∧
        characterPosition (splitAt '\n' source) b = .ok b' ∧
          (a'.before b' = true ↔ a.before b = true)) ∧
    ('\r' ∉ source → ∀ body comments, parseText source = .ok body →
      readComments source = .ok comments →
        ∃ placed, placedStatements (splitAt '\n' source) body = .ok placed ∧
          (∀ stmt ∈ nodesOf body, ∃ p ∈ placed, (nodesOf body)[p.number]? = some stmt) ∧
            ∀ p ∈ placed, ∃ stmt, (nodesOf body)[p.number]? = some stmt ∧
              ∀ comment ∈ comments, ComparesAsText source stmt p.span comment) := by
  refine ⟨fun n line h => converts_line h, fun a b ha hb => ?_, fun hr body comments hp hc => ?_⟩
  · obtain ⟨a', ha'⟩ := ha.exists_characterPosition
    obtain ⟨b', hb'⟩ := hb.exists_characterPosition
    exact ⟨a', b', ha', hb', characterPosition_before_iff ha hb ha' hb'⟩
  · obtain ⟨placed, hplaced⟩ := exists_placedStatements fun stmt hs =>
      exists_inCharacters hr hp hs
    refine ⟨placed, hplaced, fun stmt hs => ?_, fun p hm => ?_⟩
    · obtain ⟨number, hn⟩ := List.getElem?_of_mem hs
      obtain ⟨span, hspan⟩ := exists_inCharacters hr hp hs
      exact ⟨⟨number, span⟩, (mem_placedStatements hplaced).mpr ⟨stmt, hn, hspan⟩, hn⟩
    · obtain ⟨stmt, hn, hspan⟩ := (mem_placedStatements hplaced).mp hm
      have hs := List.mem_of_getElem? hn
      exact ⟨stmt, hn, fun comment hmem => comparesAsText hr hp hc hs hspan hmem⟩

/-- Two statements and two comments, with characters of more than one byte in front of each. -/
def accented : List Char := "s = 'é'; t = '日'  # => '日'\nu = 'ü'  # ü".toList

/-- In bytes, the first line's last statement would end behind the start of its comment. -/
theorem characterPosition_accented :
    Converts (splitAt '\n' accented) 1 "s = 'é'; t = '日'  # => '日'".toList ∧
    (∃ a' b', characterPosition (splitAt '\n' accented) ⟨1, 10⟩ = .ok a' ∧
      characterPosition (splitAt '\n' accented) ⟨1, 19⟩ = .ok b' ∧ a'.before b' = true) ∧
    ∃ body comments, parseText accented = .ok body ∧ readComments accented = .ok comments ∧
      (nodesOf body).map (fun stmt => stmt.site.span.stop) = [⟨1, 8⟩, ⟨1, 19⟩, ⟨2, 8⟩] ∧
        comments.map Comment.place = [⟨1, 18⟩, ⟨2, 9⟩] ∧
        ∃ placed, placedStatements (splitAt '\n' accented) body = .ok placed ∧
          ∀ p ∈ placed, ∃ stmt, (nodesOf body)[p.number]? = some stmt ∧
            ∀ comment ∈ comments, ComparesAsText accented stmt p.span comment := by
  obtain ⟨hline, hbefore, hall⟩ := characterPosition_exact accented
  have hbody : (parseText accented).toOption.map (fun body =>
      (nodesOf body).map fun stmt => stmt.site.span.stop) = some [⟨1, 8⟩, ⟨1, 19⟩, ⟨2, 8⟩] := by
    decide +kernel
  have hcomments : (readComments accented).toOption.map (List.map Comment.place) =
      some [⟨1, 18⟩, ⟨2, 9⟩] := by
    decide +kernel
  obtain ⟨body, hbody, hstops⟩ := exists_of_toOption_map hbody
  obtain ⟨comments, hcomments, hplaces⟩ := exists_of_toOption_map hcomments
  obtain ⟨placed, hplaced, -, horder⟩ := hall (by decide +kernel) body comments hbody hcomments
  obtain ⟨a', b', ha, hb, hiff⟩ := hbefore ⟨1, 10⟩ ⟨1, 19⟩
    ⟨0, _, "s = 'é'; ".toList, rfl, by decide +kernel, by decide +kernel⟩
    ⟨0, _, "s = 'é'; t = '日'".toList, rfl, by decide +kernel, by decide +kernel⟩
  exact ⟨hline 0 _ rfl, ⟨a', b', ha, hb, hiff.mpr (by decide)⟩, body, comments, hbody, hcomments,
    hstops, hplaces, placed, hplaced, horder⟩

end DocSuite.Syntax
