/-!
# Blank characters

The characters of Unicode's `White_Space` property, and trimming by them. Trimming
takes blanks off both ends and nothing from the middle.
-/
namespace OpenUrl.Text

/-- `White_Space`: the ASCII controls from tab to carriage return, space, and the
separators of the other blocks. -/
def isBlank (c : Char) : Bool :=
  let n := c.toNat
  (9 ≤ n && n ≤ 13) || n == 0x20 || n == 0x85 || n == 0xA0 || n == 0x1680 ||
  (0x2000 ≤ n && n ≤ 0x200A) || n == 0x2028 || n == 0x2029 || n == 0x202F ||
  n == 0x205F || n == 0x3000

/-- Drop the blanks in front. -/
def trimStart (cs : List Char) : List Char := cs.dropWhile isBlank

/-- Drop the blanks at the end. -/
def trimEnd (cs : List Char) : List Char := (cs.reverse.dropWhile isBlank).reverse

/-- Drop the blanks at both ends. -/
def trim (s : String) : String := String.ofList (trimEnd (trimStart s.toList))

/-- A text of blanks only counts as no text at all. -/
def allBlank (s : String) : Bool := s.toList.all isBlank

@[simp] theorem trimStart_nil : trimStart [] = [] := rfl

@[simp] theorem trimEnd_nil : trimEnd [] = [] := rfl

theorem trimStart_cons_of_not_blank {c : Char} (h : isBlank c = false) (cs : List Char) :
    trimStart (c :: cs) = c :: cs := by
  simp [trimStart, h]

/-- ASCII upper case; other characters stay. -/
def upper (s : String) : String := s.map Char.toUpper

/-- ASCII lower case; other characters stay. -/
def lower (s : String) : String := s.map Char.toLower

end OpenUrl.Text
