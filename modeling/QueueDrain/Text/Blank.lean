/-!
Blank characters, and text without the blanks around it.

A character is blank when it has the Unicode property `White_Space`; `blankRanges` lists the
property.  `trim` takes the blanks off both ends of a text, `trimEndWhere` any class of characters
off its end, and `split` cuts a text at a separator.
-/

namespace QueueDrain.Text

/-- The code points with the property `White_Space`, as ranges with both ends included. -/
def blankRanges : List (Nat × Nat) :=
  [(0x09, 0x0D), (0x20, 0x20), (0x85, 0x85), (0xA0, 0xA0), (0x1680, 0x1680), (0x2000, 0x200A),
    (0x2028, 0x2029), (0x202F, 0x202F), (0x205F, 0x205F), (0x3000, 0x3000)]

/-- Whether a character is white space. -/
def isBlank (c : Char) : Bool := blankRanges.any fun (lo, hi) => lo ≤ c.toNat && c.toNat ≤ hi

/-- The text without the characters of a class at its end. -/
def trimEndWhere (p : Char → Bool) (s : List Char) : List Char := (s.reverse.dropWhile p).reverse

/-- The text without the blanks at its two ends. -/
def trim (s : List Char) : List Char := trimEndWhere isBlank (s.dropWhile isBlank)

/-- The parts of a text between the separators: one part more than there are separators. -/
def split (separator : Char) : List Char → List (List Char)
  | [] => [[]]
  | c :: s =>
    if c = separator then [] :: split separator s
    else
      match split separator s with
      | [] => [[c]]
      | part :: parts => (c :: part) :: parts

/-- The parts of a comma-separated list: trimmed, and without the parts that are then empty. -/
def listParts (s : List Char) : List (List Char) :=
  ((split ',' s).map trim).filter (· ≠ [])

end QueueDrain.Text
