/-! # Blank characters and words

White space is the Unicode property `White_Space`, not the ASCII set: a name made of an
ideographic space is blank. Trimming and word counting both rest on the one predicate `isBlank`,
so a text is blank exactly when it has no word.
-/

namespace CallDesk.Text

/-- The characters with the Unicode property `White_Space`. -/
def isBlank (c : Char) : Bool :=
  let n := c.toNat
  (9 ≤ n && n ≤ 13) || n == 0x20 || n == 0x85 || n == 0xA0 || n == 0x1680 ||
    (0x2000 ≤ n && n ≤ 0x200A) || n == 0x2028 || n == 0x2029 || n == 0x202F || n == 0x205F ||
    n == 0x3000

def trimLeft (cs : List Char) : List Char := cs.dropWhile isBlank

def trimRight (cs : List Char) : List Char := (cs.reverse.dropWhile isBlank).reverse

/-- Drops the blanks at both ends of a list of characters. -/
def trimChars (cs : List Char) : List Char := trimRight (trimLeft cs)

def trim (s : String) : String := .ofList (trimChars s.toList)

/-- A text without any character that is not blank. -/
def isBlankText (s : String) : Bool := s.toList.all isBlank

/-- Counts the words that start in a list of characters, given whether it starts inside a word. -/
def wordsFrom (inside : Bool) (count : Nat) : List Char → Nat
  | [] => count
  | c :: rest =>
    if isBlank c then wordsFrom false count rest
    else wordsFrom true (if inside then count else count + 1) rest

/-- The number of maximal runs of characters that are not blank. -/
def wordCount (s : String) : Nat := wordsFrom false 0 s.toList

end CallDesk.Text
