import FieldFormula.Library.Text
import FieldFormula.Unicode.Fold

/-!
# Functions of lists

A list is a text with semicolons between its items.  Positions count from one, and
position zero stands for the whole list.
-/

namespace FieldFormula.Library

/-! ### Items -/

/-- The items of a list, empty ones included. -/
def itemsOf (list : List Char) : List (List Char) :=
  Text.splitOn [';'] list

/-- The list of the given items. -/
def listOf (items : List (List Char)) : List Char :=
  Text.join [';'] items

/-- The items that are not empty. -/
def fullItems (list : List Char) : List (List Char) :=
  (itemsOf list).filter (!·.isEmpty)

/-- Whether a float is an integer. -/
def isInteger (n : Float) : Bool :=
  match Decimal.Binary.ofFloat? n with
  | some b => b.isInteger
  | none => false

/-- The item at a position, the whole list at position zero, and nothing at a position
where there is no item. -/
def pick (items : List (List Char)) (index : Float) : List Char :=
  if index == 0.0 then listOf items
  else if isInteger index && 1.0 ≤ index && index ≤ Float.ofNat items.length then
    items.getD (Decimal.toNat index - 1) []
  else []

/-! ### Splitting texts -/

/-- A piece of a text around a delimiter. -/
def split (c : Call) : Value := .ofChars (pick (pieces (c.chars 0) (c.chars 2)) (c.number 1))

/-- The lines of a text.  A carriage return before a line feed belongs to the line break. -/
def linesOf (s : List Char) : List (List Char) :=
  match Text.splitOn ['\n'] s with
  | [] => []
  | l :: ls => breakAfter l ls
where
  /-- A line and the lines after it, where a line break has followed all but the last. -/
  breakAfter (l : List Char) : List (List Char) → List (List Char)
    | [] => [l]
    | m :: ls =>
      (if l.getLast? = some '\r' then l.dropLast else l) :: breakAfter m ls

/-- A line of a text. -/
def lineSplit (c : Call) : Value := .ofChars (pick (linesOf (c.chars 1)) (c.number 0))

/-- A word of a text. -/
def wordSplit (c : Call) : Value := .ofChars (pick (Text.words (c.chars 1)) (c.number 0))

/-- Whether a character may occur in an address: all but blanks, commas and semicolons. -/
def isAddressChar (c : Char) : Bool :=
  !(Text.isBlank c || c == ',' || c == ';')

/-- Whether a run of characters has an at sign with a character on either side. -/
def isAddress (s : List Char) : Bool :=
  (s.drop 1).dropLast.contains '@'

/-- The addresses in a text. -/
def addressesIn (s : List Char) : List (List Char) :=
  (fields s).filter isAddress
where
  /-- The maximal runs of characters that may occur in an address, and empty texts. -/
  fields (s : List Char) : List (List Char) :=
    s.foldr (fun c runs => match runs with
      | [] => [[c]]
      | r :: rs => if isAddressChar c then (c :: r) :: rs else [] :: r :: rs) [[]]

/-- An e-mail address in a text. -/
def emailSplit (c : Call) : Value :=
  .ofChars (pick (addressesIn (c.chars 1)) (c.number 0))

/-! ### Lists as wholes -/

/-- The number of items with more than blanks in a list, or among several arguments. -/
def listCount (c : Call) : Value :=
  let items := match c.allChars with
    | [list] => itemsOf list
    | items => items
  .ofNat (items.filter (!·.all Text.isBlank)).length

/-- An item of a list. -/
def listIndex (c : Call) : Value := .ofChars (pick (itemsOf (c.chars 1)) (c.number 0))

/-- Whether two characters are case variants of each other. -/
def sameAnyCase (a b : Char) : Bool :=
  Unicode.fold a == Unicode.fold b

/-- A text with a word, in any case, replaced by another text. -/
def replaceWord (word replacement : List Char) (s : List Char) : List Char :=
  match s with
  | [] => []
  | c :: r =>
    if word ≠ [] ∧ word.length ≤ (c :: r).length ∧
        ((c :: r).zip word).all fun (a, b) => sameAnyCase a b then
      replacement ++ replaceWord word replacement (r.drop (word.length - 1))
    else c :: replaceWord word replacement r
termination_by s.length
decreasing_by
  · simp only [List.length_drop, List.length_cons]
    omega
  · simp

/-- The separator that a text stands for: the words for line breaks, tabs and spaces in it
are replaced one kind after the other. -/
def separatorFor (s : List Char) : List Char :=
  let s := replaceWord "ppnewline".toList ['\n'] s
  let s := replaceWord "ppcrlf".toList ['\r', '\n'] s
  let s := replaceWord "pptab".toList ['\t'] s
  replaceWord "ppsp".toList [' '] s

/-- The items of a list around a separator. -/
def listJoin (c : Call) : Value :=
  .ofChars (Text.join (separatorFor (c.chars 0)) (itemsOf (c.chars 1)))

/-- The items without repetitions, each where it occurs first. -/
def distinct (items : List (List Char)) : List (List Char) :=
  items.eraseDups

/-- The items of two lists, each once. -/
def listMerge (c : Call) : Value :=
  .ofChars (listOf (distinct (fullItems (c.chars 0) ++ fullItems (c.chars 1))))

/-- The items of a list that another one has not. -/
def listDiff (c : Call) : Value :=
  .ofChars (listOf ((fullItems (c.chars 0)).filter (!(fullItems (c.chars 1)).contains ·)))

/-- The items of a list that another one has too. -/
def listIntersect (c : Call) : Value :=
  .ofChars (listOf ((fullItems (c.chars 0)).filter ((fullItems (c.chars 1)).contains ·)))

/-- The items of all lists, each once. -/
def listUnique (c : Call) : Value :=
  .ofChars (listOf (distinct (fullItems (listOf c.allChars))))

/-- The list with a line for each item. -/
def listAsLines (c : Call) : Value :=
  .ofChars ((c.chars 0).map fun a => if a = ';' then '\n' else a)

/-! ### Item by item -/

/-- The list with a function applied to each item. -/
def mapItems (f : List Char → List Char) (list : List Char) : Value :=
  .ofChars (listOf ((itemsOf list).map f))

/-- The list of the items that a test accepts. -/
def filterItems (p : List Char → Bool) (list : List Char) : Value :=
  .ofChars (listOf ((itemsOf list).filter p))

/-- Appends a text to each item. -/
def itemAppend (c : Call) : Value := mapItems (· ++ c.chars 0) (c.chars 1)

/-- Puts a text in front of each item. -/
def itemPrepend (c : Call) : Value := mapItems (c.chars 0 ++ ·) (c.chars 1)

/-- The items that contain a text, in any case. -/
def itemContains (c : Call) : Value := filterItems (occursAnyCase (c.chars 0)) (c.chars 1)

/-- The items that start with a text, in any case. -/
def itemStartsWith (c : Call) : Value :=
  filterItems (fun i => Text.startsWith (Unicode.toLower (c.chars 0)) (Unicode.toLower i))
    (c.chars 1)

/-- The items that end with a text, in any case. -/
def itemEndsWith (c : Call) : Value :=
  filterItems (fun i => Text.endsWith (Unicode.toLower (c.chars 0)) (Unicode.toLower i))
    (c.chars 1)

/-- The first characters of each item. -/
def itemLeft (c : Call) : Value := mapItems (takeLeft (c.number 0)) (c.chars 1)

/-- The last characters of each item. -/
def itemRight (c : Call) : Value := mapItems (takeRight (c.number 0)) (c.chars 1)

/-- The part of each item left of a marker. -/
def itemLeftOf (c : Call) : Value := mapItems (beforeFirst (c.chars 0)) (c.chars 1)

/-- The part of each item right of a marker. -/
def itemRightOf (c : Call) : Value := mapItems (afterFirst (c.chars 0)) (c.chars 1)

end FieldFormula.Library
