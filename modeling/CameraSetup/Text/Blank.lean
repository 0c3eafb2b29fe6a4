import CameraSetup.Text.CharClass

/-! White space, as Unicode's property `White_Space` defines it, and the words it separates. -/

namespace CameraSetup.Text

/-- The characters with the property `White_Space`. -/
def blankClass : CharClass :=
  ⟨[(0x9, 0xd), (0x20, 0x20), (0x85, 0x85), (0xa0, 0xa0), (0x1680, 0x1680), (0x2000, 0x200a),
    (0x2028, 0x2029), (0x202f, 0x202f), (0x205f, 0x205f), (0x3000, 0x3000)]⟩

/-- Whether a character is white space. -/
def isBlank (c : Char) : Bool :=
  blankClass.contains c

/-- The text without its leading white space. -/
def trimStart (s : List Char) : List Char :=
  s.dropWhile isBlank

/-- The text without its leading and its trailing white space. -/
def trim (s : List Char) : List Char :=
  (trimStart (trimStart s).reverse).reverse

/-- The white space before the first other character. -/
def indentation (s : List Char) : List Char :=
  s.takeWhile isBlank

/-- The characters from the first that is no white space up to the next that is; empty when all
is white space. -/
def firstWord (s : List Char) : List Char :=
  (trimStart s).takeWhile fun c => !isBlank c

theorem indentation_append_trimStart (s : List Char) : indentation s ++ trimStart s = s :=
  List.takeWhile_append_dropWhile

theorem isBlank_of_mem_indentation {s : List Char} {c : Char} (h : c ∈ indentation s) :
    isBlank c = true :=
  List.all_eq_true.mp (List.all_takeWhile (l := s)) c h

end CameraSetup.Text
