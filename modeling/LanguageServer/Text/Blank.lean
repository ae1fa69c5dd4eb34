/-! Blank characters and the trimming of text. A character is blank when it has the Unicode property
    `White_Space`. The module holds the 25 characters of that property, and trimming as two `dropWhile`s, so
    that a trimmed text starts and ends with a character that is not blank. -/

namespace LanguageServer.Text

/-- The code points of the Unicode property `White_Space`, in order. -/
def blankCodes : List Nat :=
  [0x09, 0x0A, 0x0B, 0x0C, 0x0D, 0x20, 0x85, 0xA0, 0x1680,
    0x2000, 0x2001, 0x2002, 0x2003, 0x2004, 0x2005, 0x2006, 0x2007, 0x2008, 0x2009, 0x200A,
    0x2028, 0x2029, 0x202F, 0x205F, 0x3000]

/-- A character of the Unicode property `White_Space`. -/
def isBlank (c : Char) : Bool := blankCodes.contains c.toNat

/-- The characters without the blank ones at the end. -/
def trimEnd (cs : List Char) : List Char :=
  (cs.reverse.dropWhile isBlank).reverse

/-- The characters without the blank ones at either end. -/
def trim (cs : List Char) : List Char :=
  trimEnd (cs.dropWhile isBlank)

/-- What the core library calls whitespace is blank. -/
theorem isBlank_of_isWhitespace {c : Char} (h : c.isWhitespace = true) : isBlank c = true := by
  simp only [Char.isWhitespace, Bool.or_eq_true, decide_eq_true_eq] at h
  rcases h with ((rfl | rfl) | rfl) | rfl <;> decide

example : blankCodes.length = 25 ∧ blankCodes.Pairwise (· < ·) := by decide

end LanguageServer.Text
