/-!
# White space

`isBlank` is the Unicode property `White_Space`.  `trimStart`, `trimEnd` and `trim` drop
blank characters from the ends of a text, and `words` are the maximal runs of characters
that are not blank.  No word is empty, and no word holds a blank character.
-/

namespace FieldFormula.Text

/-- The characters with the Unicode property `White_Space`. -/
def isBlank (c : Char) : Bool :=
  let n := c.toNat
  (0x09 ≤ n && n ≤ 0x0D) || n == 0x20 || n == 0x85 || n == 0xA0 || n == 0x1680 ||
    (0x2000 ≤ n && n ≤ 0x200A) || n == 0x2028 || n == 0x2029 || n == 0x202F ||
    n == 0x205F || n == 0x3000

/-- The text without its leading blanks. -/
def trimStart (s : List Char) : List Char :=
  s.dropWhile isBlank

/-- The text without its trailing blanks. -/
def trimEnd (s : List Char) : List Char :=
  (s.reverse.dropWhile isBlank).reverse

/-- The text without its leading and trailing blanks. -/
def trim (s : List Char) : List Char :=
  trimEnd (trimStart s)

theorem length_trimStart_le (s : List Char) :
  (trimStart s).length ≤ s.length
  := (List.dropWhile_sublist isBlank).length_le

/-- The maximal runs of characters that are not blank. -/
def words (s : List Char) : List (List Char) :=
  match _h : trimStart s with
  | [] => []
  | c :: r => (c :: r.takeWhile (!isBlank ·)) :: words (r.dropWhile (!isBlank ·))
termination_by s.length
decreasing_by
  have h₁ := length_trimStart_le s
  have h₂ := (List.dropWhile_sublist (l := r) (!isBlank ·)).length_le
  rw [_h] at h₁
  simp only [List.length_cons] at h₁
  omega

end FieldFormula.Text
