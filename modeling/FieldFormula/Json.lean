import FieldFormula.Decimal.Layout

/-!
# JSON values

A JSON value is null, a truth value, a number, a string, an array, or an object.  The
members of an object keep the order in which their keys first came.  Numbers are integers
of 64 bits, signed or not, or floats, and they stay apart.  `Json.text` is the compact text
of a value.
-/

namespace FieldFormula

/-- The numbers of JSON. -/
inductive Json.Number where
  | integer (n : Int)
  | float (x : Float)
  deriving DecidableEq

/-- The values of JSON. -/
inductive Json where
  | null
  | bool (b : Bool)
  | number (n : Json.Number)
  | string (s : String)
  | array (items : List Json)
  | object (members : List (String × Json))

namespace Json

/-! ### Members -/

/-- The members with the value of a key replaced, or with a new member at the end. -/
def insert (key : String) (value : Json) : List (String × Json) → List (String × Json)
  | [] => [(key, value)]
  | (k, v) :: ms => if k = key then (k, value) :: ms else (k, v) :: insert key value ms

/-- The members that result when pairs are inserted one after the other. -/
def ofPairs (pairs : List (String × Json)) : List (String × Json) :=
  pairs.foldl (fun ms (k, v) => insert k v ms) []

/-! ### Text -/

/-- Floats between `1e-5` and `1e16` are written without an exponent, integers among them
with a zero after the point, and every exponent has a sign. -/
def layout : Decimal.Layout where
  tie := .even
  positional k := -5 ≤ k && k ≤ 15
  plus := ['+']
  integerTail := ".0".toList
  signedZero := true
  infinity := "null".toList
  nan := "null".toList

/-- The text of a number. -/
def Number.text : Number → List Char
  | .integer n => (if n < 0 then ['-'] else []) ++ Nat.toDigits 10 n.natAbs
  | .float x => layout.render x

/-- The float nearest to a number. -/
def Number.toFloat : Number → Float
  | .integer n => Float.ofInt n
  | .float x => x

/-- A character as it stands in a string.  Quotes, backslashes and control characters are
escaped. -/
def escape (c : Char) : List Char :=
  match c with
  | '"' => ['\\', '"']
  | '\\' => ['\\', '\\']
  | '\n' => ['\\', 'n']
  | '\r' => ['\\', 'r']
  | '\t' => ['\\', 't']
  | '\x08' => ['\\', 'b']
  | '\x0c' => ['\\', 'f']
  | c =>
    if c.toNat < 0x20 then
      ['\\', 'u', '0', '0', Nat.digitChar (c.toNat / 16), Nat.digitChar (c.toNat % 16)]
    else [c]

/-- A string in quotes. -/
def quote (s : String) : List Char :=
  '"' :: s.toList.flatMap escape ++ ['"']

mutual

/-- The compact text of a value. -/
def text : Json → List Char
  | .null => "null".toList
  | .bool b => if b then "true".toList else "false".toList
  | .number n => n.text
  | .string s => quote s
  | .array items => '[' :: textOfItems items ++ [']']
  | .object members => '\x7b' :: textOfMembers members ++ ['\x7d']

/-- The texts of values with commas between them. -/
def textOfItems : List Json → List Char
  | [] => []
  | [v] => text v
  | v :: w :: vs => text v ++ ',' :: textOfItems (w :: vs)

/-- The texts of members with commas between them. -/
def textOfMembers : List (String × Json) → List Char
  | [] => []
  | [(k, v)] => quote k ++ ':' :: text v
  | (k, v) :: m :: ms => quote k ++ ':' :: text v ++ ',' :: textOfMembers (m :: ms)

end

end Json

end FieldFormula
