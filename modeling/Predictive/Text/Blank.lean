/-!
# Blanks and words

Blanks separate words and pad lines. Main statements: a word is never empty and holds no blank
(`ne_nil_of_mem_splitWords`, `not_isBlank_of_mem_splitWords`), and the words of a text are its
characters without the blanks (`flatten_splitWords`).
-/

namespace Predictive.Text

/-- The blanks are the tab, the line and form feeds, the carriage return, the four information
separators, the space, the next-line control and the space, line and paragraph separators of
Unicode. -/
def isBlank (c : Char) : Bool :=
  let n := c.toNat
  (0x09 ≤ n && n ≤ 0x0D) || (0x1C ≤ n && n ≤ 0x20) || n = 0x85 || n = 0xA0 || n = 0x1680 ||
    (0x2000 ≤ n && n ≤ 0x200A) || n = 0x2028 || n = 0x2029 || n = 0x202F || n = 0x205F ||
    n = 0x3000

/-- Whether a word that stands before these characters ends here. -/
def endsWord : List Char → Bool
  | [] => true
  | c :: _ => isBlank c

/-- The longest runs of characters that are no blanks. -/
def splitWords : List Char → List (List Char)
  | [] => []
  | c :: rest =>
    if isBlank c then splitWords rest
    else if endsWord rest then [c] :: splitWords rest
    else
      -- The word goes on: its other letters are the first word of what follows.
      match splitWords rest with
      | [] => [[c]]
      | word :: more => (c :: word) :: more

/-- The words of a text, in order. -/
def words (text : String) : List String :=
  (splitWords text.toList).map String.ofList

/-- The characters without the blanks at both ends. -/
def trimChars (cs : List Char) : List Char :=
  ((cs.dropWhile isBlank).reverse.dropWhile isBlank).reverse

/-- The text without the blanks at both ends. -/
def trim (text : String) : String :=
  String.ofList (trimChars text.toList)

/-- A word has a character. -/
theorem ne_nil_of_mem_splitWords {cs word : List Char} (h : word ∈ splitWords cs) :
    word ≠ [] := by
  fun_induction splitWords cs generalizing word <;> grind

/-- No blank stands in a word. -/
theorem not_isBlank_of_mem_splitWords {cs word : List Char} (h : word ∈ splitWords cs) :
    ∀ c ∈ word, isBlank c = false := by
  fun_induction splitWords cs generalizing word <;> grind

/-- Splitting into words drops the blanks and nothing else. -/
theorem flatten_splitWords (cs : List Char) :
    (splitWords cs).flatten = cs.filter (!isBlank ·) := by
  fun_induction splitWords cs <;> simp_all

end Predictive.Text
