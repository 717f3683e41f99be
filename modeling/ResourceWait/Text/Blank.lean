import ResourceWait.Text.Ranges

/-!
# White space and blank texts

The characters with the Unicode property `White_Space`, and the texts made of nothing else. A
configured status has to hold something other than white space; the zero-width no-break space and
the Mongolian vowel separator, which look empty, are not white space.
-/

namespace ResourceWait.Text

/-- The ranges of the Unicode property `White_Space`, in ascending order. -/
def whiteSpaceRanges : List (Nat × Nat) :=
  [(0x09, 0x0D), (0x20, 0x20), (0x85, 0x85), (0xA0, 0xA0), (0x1680, 0x1680), (0x2000, 0x200A),
    (0x2028, 0x2029), (0x202F, 0x202F), (0x205F, 0x205F), (0x3000, 0x3000)]

/-- Whether a character is white space. -/
def isWhiteSpace (c : Char) : Bool :=
  inRanges whiteSpaceRanges c

/-- **A blank text** holds no character but white space. -/
def isBlank (s : String) : Bool :=
  s.toList.all isWhiteSpace

/-- The ranges are ascending and apart from each other. -/
example : whiteSpaceRanges.Pairwise fun a b => a.2 + 1 < b.1 := by decide

/-- The property has 25 characters. -/
example : (whiteSpaceRanges.map fun (first, last) => last + 1 - first).sum = 25 := by decide

end ResourceWait.Text
