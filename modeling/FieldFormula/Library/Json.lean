import FieldFormula.Call
import FieldFormula.Json.Reading
import FieldFormula.Library.List

/-!
# Functions of JSON texts

Look-up, update, removal and insertion in JSON texts.  A text that is not JSON gives a
diagnostic in place of the result, and results are compact texts.
-/

namespace FieldFormula.Library

/-- The diagnostic for a text that is not JSON. -/
def jsonError (e : Json.ReadError) : Value :=
  .text ("[JSON error: " ++ e.message ++ "]")

/-- The result of a function on the JSON value of a text, or the diagnostic. -/
def withJson (s : List Char) (f : Json → Value) : Value :=
  match Json.ofText s with
  | .ok j => f j
  | .error e => jsonError e

/-- The result for a JSON value. -/
def jsonValue (j : Json) : Value := .ofChars j.text

/-- The greatest integer of those that a float holds together with both neighbours. -/
def maxSafeInteger : Float := 9007199254740991.0

/-- A float as a JSON value: an integer if it is a safe one, and null if it is not
finite. -/
def jsonOfNumber (n : Float) : Json :=
  match Decimal.Binary.ofFloat? n with
  | none => .null
  | some b =>
    if b.isInteger ∧ n.abs ≤ maxSafeInteger then .number (.integer b.truncate)
    else .number (.float n)

/-- A value as a JSON value. -/
def jsonOfValue : Value → Json
  | .number n => jsonOfNumber n
  | .text s => .string s

/-- The text form of a JSON value.  Strings stand for themselves, truth values are one and
zero, and numbers are written as formulas write them. -/
def itemText : Json → List Char
  | .string s => s.toList
  | .number n => Value.layout.render n.toFloat
  | .bool b => if b then ['1'] else ['0']
  | j => j.text

/-- The position that a text writes: digits, which a plus sign may precede, for a number of
64 bits. -/
def indexOfText? (s : List Char) : Option Nat :=
  let ds := match s with
    | '+' :: r => r
    | r => r
  if ds.isEmpty || !ds.all Char.isDigit then none
  else
    let n := Decimal.digitsValue ds
    if n < Nat.pow 2 64 then some n else none

/-- The part of a JSON value that a step of a path leads to. -/
def follow (part : List Char) : Json → Option Json
  | .object members => members.lookup (String.ofList part)
  | .array items => (indexOfText? part).bind (items[·]?)
  | _ => none

/-- The part of a JSON value that a path leads to. -/
def walk (path : List (List Char)) (j : Json) : Option Json :=
  path.foldlM (fun j part => follow part j) j

/-- The steps of a path, which full stops separate. -/
def pathOf (s : List Char) : List (List Char) :=
  Text.splitOn ['.'] s

/-- A text as a JSON string. -/
def jsonEncode (c : Call) : Value := .ofChars (Json.quote (c.text 0))

/-- The part of a text from the first opening bracket or brace to the last closing one. -/
def jsonExtract (c : Call) : Value :=
  let s := (c.chars 0).dropWhile fun a => !(a == '[' || a == '\x7b')
  .ofChars (s.reverse.dropWhile fun a => !(a == ']' || a == '\x7d')).reverse

/-- The part of a JSON text that a path leads to. -/
def jsonQuery (c : Call) : Value :=
  withJson (c.chars 1) fun j =>
    match walk (pathOf (c.chars 0)) j with
    | some v => .ofChars (itemText v)
    | none => .empty

/-- A JSON value with a member or an existing item replaced. -/
def updated (property : List Char) (value : Json) : Json → Json
  | .object members => .object (Json.insert (String.ofList property) value members)
  | .array items =>
    match indexOfText? property with
    | some i => .array (items.set i value)
    | none => .array items
  | j => j

/-- A JSON text with a member or an item replaced.  The empty text counts as an object
without members. -/
def jsonUpdate (c : Call) : Value :=
  let change (j : Json) : Value := jsonValue (updated (c.chars 1) (jsonOfValue (c.value 2)) j)
  if (c.chars 0).isEmpty then change (.object []) else withJson (c.chars 0) change

/-- The position in a list of length `len` that a float stands for.  Negative ones count
from the end. -/
def resolveIndex? (index : Float) (len : Nat) : Option Nat :=
  let index := if index < 0.0 then Float.ofNat len + index else index
  if isInteger index && 0.0 ≤ index && index < Float.ofNat len then some (Decimal.toNat index)
  else none

/-- An item of a JSON array. -/
def jsonIndex (c : Call) : Value :=
  withJson (c.chars 1) fun j =>
    match j with
    | .array items =>
      match (resolveIndex? (c.number 0) items.length).bind (items[·]?) with
      | some v => .ofChars (itemText v)
      | none => .empty
    | _ => .empty

/-- The position from which an item is removed.  Negative ones count from the end, but not
beyond the front. -/
def removalIndex (index : Float) (len : Nat) : Float :=
  if index.isNaN then 0.0
  else
    let whole := Decimal.roundWith Decimal.Binary.truncate index
    if index < 0.0 then
      if Float.ofNat len + whole < 0.0 then 0.0 else Float.ofNat len + whole
    else whole

/-- A JSON array without an item.  A text that is no array stays as it is. -/
def jsonRemove (c : Call) : Value :=
  withJson (c.chars 1) fun j =>
    match j with
    | .array items =>
      let start := removalIndex (c.number 0) items.length
      jsonValue (.array (if start < Float.ofNat items.length then
        items.eraseIdx (Decimal.toNat start) else items))
    | _ => .ofChars (c.chars 1)

/-- The items of a JSON text that is an array, and none for other JSON and the empty
text. -/
def logItems (s : List Char) : Except Json.ReadError (List Json) :=
  if s.isEmpty then .ok []
  else
    match Json.ofText s with
    | .ok (.array items) => .ok items
    | .ok _ => .ok []
    | .error e => .error e

/-- The JSON value of an item: a text is read as JSON. -/
def logItem : Value → Except Json.ReadError Json
  | .text s => Json.ofText s.toList
  | .number n => .ok (jsonOfNumber n)

/-- The first items of a list, by a positive float. -/
def keepFirst (limit : Float) (items : List Json) : List Json :=
  if 0.0 < limit ∧ limit < Float.ofNat items.length then items.take (Decimal.toNat limit)
  else items

/-- A JSON array with an item put in front, cut to a length if that is positive. -/
def jsonFifo (c : Call) : Value :=
  match logItems (c.chars 0) with
  | .error e => jsonError e
  | .ok items =>
    match logItem (c.value 1) with
    | .error e => jsonError e
    | .ok item => jsonValue (.array (keepFirst (c.number 2) (item :: items)))

end FieldFormula.Library
