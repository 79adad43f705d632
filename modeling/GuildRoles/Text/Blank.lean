/-!
# Blank characters and trimming

The Unicode `White_Space` property, as a table of code point ranges, and trimming of text at both
ends by it. Flags and numbers typed by administrators are read after such a trim, so a no-break
space or an ideographic space around a value is ignored, while a zero-width space is not blank.

Main statement: `isBlank_of_isWhitespace`, every character that core calls whitespace is blank
here too.
-/

namespace GuildRoles.Text

/-- Ranges of code points with the Unicode `White_Space` property, ends included. -/
def blankRanges : List (Nat × Nat) :=
  [(0x09, 0x0D), (0x20, 0x20), (0x85, 0x85), (0xA0, 0xA0), (0x1680, 0x1680),
   (0x2000, 0x200A), (0x2028, 0x2029), (0x202F, 0x202F), (0x205F, 0x205F), (0x3000, 0x3000)]

/-- A character is blank when its code point lies in one of the `White_Space` ranges. -/
def isBlank (c : Char) : Bool :=
  blankRanges.any fun r => r.1 ≤ c.toNat && c.toNat ≤ r.2

/-- Drops the blank characters at the front of a character list. -/
def dropBlank (cs : List Char) : List Char := cs.dropWhile isBlank

/-- Removes blank characters at both ends. -/
def trimChars (cs : List Char) : List Char := (dropBlank (dropBlank cs).reverse).reverse

/-- Removes blank characters at both ends of a text. -/
def trim (s : String) : String := String.ofList (trimChars s.toList)

theorem isBlank_of_isWhitespace (c : Char) (h : c.isWhitespace = true) : isBlank c = true := by
  simp only [Char.isWhitespace, Bool.or_eq_true, decide_eq_true_eq] at h
  simp only [isBlank, blankRanges, List.any_cons, List.any_nil, Bool.or_eq_true,
    Bool.and_eq_true, decide_eq_true_eq, Bool.or_false]
  rcases h with ((h | h) | h) | h <;> subst h <;> decide

end GuildRoles.Text
