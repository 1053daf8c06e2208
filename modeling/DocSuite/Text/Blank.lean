import DocSuite.Text.Ranges

/-!
Blank characters: the Unicode characters that separate words. Main statement: the words
of a text hold no blank.
-/
namespace DocSuite.Text

/-- Unicode white space and the four information separators. -/
def isBlank (c : Char) : Bool :=
  let n := c.toNat
  (9 ≤ n && n ≤ 13) || (28 ≤ n && n ≤ 32) || n == 0x85 || n == 0xA0 || n == 0x1680 ||
    (0x2000 ≤ n && n ≤ 0x200A) || n == 0x2028 || n == 0x2029 || n == 0x202F ||
    n == 0x205F || n == 0x3000

def trimLeft (cs : List Char) : List Char := cs.dropWhile isBlank

def trimRight (cs : List Char) : List Char := (cs.reverse.dropWhile isBlank).reverse

/-- Without the blanks at both ends. -/
def trim (cs : List Char) : List Char := trimRight (trimLeft cs)

/-- The words, and the word that is being read. -/
def wordsFrom : List Char → List Char → List (List Char)
  | current, [] => if current.isEmpty then [] else [current.reverse]
  | current, c :: cs =>
      if isBlank c then
        if current.isEmpty then wordsFrom [] cs else current.reverse :: wordsFrom [] cs
      else wordsFrom (c :: current) cs

/-- The maximal runs of characters that are not blank. -/
def words (cs : List Char) : List (List Char) := wordsFrom [] cs

theorem wordsFrom_not_blank (current cs : List Char) (h : ∀ c ∈ current, isBlank c = false) :
    ∀ w ∈ wordsFrom current cs, ∀ c ∈ w, isBlank c = false := by
  induction cs generalizing current with
  | nil =>
    intro w hw
    simp only [wordsFrom] at hw
    split at hw
    · simp at hw
    · simp only [List.mem_singleton] at hw
      subst hw
      simpa using h
  | cons c cs ih =>
    intro w hw
    simp only [wordsFrom] at hw
    split at hw
    · split at hw
      · exact ih [] (by simp) w hw
      · rcases List.mem_cons.mp hw with rfl | hw
        · simpa using h
        · exact ih [] (by simp) w hw
    · next hc =>
      refine ih (c :: current) ?_ w hw
      intro d hd
      rcases List.mem_cons.mp hd with rfl | hd
      · simpa using hc
      · exact h d hd

theorem words_not_blank (cs : List Char) : ∀ w ∈ words cs, ∀ c ∈ w, isBlank c = false :=
  wordsFrom_not_blank [] cs (by simp)

/-- Joins texts with a separator between them. -/
def join (sep : List Char) : List (List Char) → List Char
  | [] => []
  | [w] => w
  | w :: ws => w ++ sep ++ join sep ws

end DocSuite.Text
