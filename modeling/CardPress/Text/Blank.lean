/-!
# Blank and control characters

The characters with the Unicode property `White_Space`, the controls (`Cc`), and trimming; and the
names of files that are made from labels with these.
-/

namespace CardPress.Text

/-- The twenty-five characters with the property `White_Space`. -/
def isBlank (c : Char) : Bool :=
  let n := c.toNat
  (9 ≤ n && n ≤ 13) || n == 0x20 || n == 0x85 || n == 0xa0 || n == 0x1680 ||
    (0x2000 ≤ n && n ≤ 0x200a) || n == 0x2028 || n == 0x2029 || n == 0x202f || n == 0x205f ||
    n == 0x3000

/-- The category `Cc`. -/
def isControl (c : Char) : Bool :=
  let n := c.toNat
  n < 0x20 || (0x7f ≤ n && n ≤ 0x9f)

/-- Drop characters from the end while they satisfy `p`. -/
def dropEndWhile (p : Char → Bool) (cs : List Char) : List Char :=
  (cs.reverse.dropWhile p).reverse

def trimChars (cs : List Char) : List Char :=
  dropEndWhile isBlank (cs.dropWhile isBlank)

/-- Without blank characters at either end. -/
def trim (s : String) : String :=
  String.ofList (trimChars s.toList)

theorem isBlank_of_isWhitespace {c : Char} (h : c.isWhitespace) : isBlank c := by
  simp only [Char.isWhitespace, Bool.or_eq_true, decide_eq_true_eq] at h
  rcases h with ((h | h) | h) | h <;> subst h <;> decide

/-! ## File names

Characters that file systems reserve become underscores; dots and blanks at the end go, blanks at
the start too. What is left with nothing is called `card`. -/

def defaultFilename : String := "card"

/-- Reserved characters and controls. -/
def isUnsafe (c : Char) : Bool :=
  ['<', '>', ':', '"', '/', '\\', '|', '?', '*'].contains c || isControl c

def isTrailing (c : Char) : Bool :=
  c = '.' || c = ' '

def sanitiseFilename (name : String) : String :=
  let safe := name.toList.map fun c => if isUnsafe c then '_' else c
  let cleaned := trimChars (dropEndWhile isTrailing safe)
  if cleaned.isEmpty then defaultFilename else String.ofList cleaned

end CardPress.Text
