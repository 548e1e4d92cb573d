import FieldFormula.Json
import FieldFormula.Unicode.Ranges

/-!
# Reading JSON

`Json.ofText` reads a text as one JSON value.  An error has a cause and a position, which
counts lines from one and bytes of the UTF-8 form within the line.  Values may be nested
to a depth of 127.  Numbers with a fraction or an exponent, and integers beyond 64 bits,
are read by scaling their leading digits with a power of ten.
-/

namespace FieldFormula.Json

/-! ### Errors -/

/-- The reasons why a text is not JSON. -/
inductive Cause where
  | endInList
  | endInObject
  | endInString
  | endInValue
  | colon
  | listComma
  | objectComma
  | word
  | value
  | escape
  | number
  | numberRange
  | controlCharacter
  | keyString
  | loneSurrogate
  | trailingComma
  | trailingCharacters
  | hexEscapeEnd
  | depth
  deriving DecidableEq, Repr

/-- The message of a cause. -/
def Cause.message : Cause → String
  | .endInList => "EOF while parsing a list"
  | .endInObject => "EOF while parsing an object"
  | .endInString => "EOF while parsing a string"
  | .endInValue => "EOF while parsing a value"
  | .colon => "expected `:`"
  | .listComma => "expected `,` or `]`"
  | .objectComma => "expected `,` or `\x7d`"
  | .word => "expected ident"
  | .value => "expected value"
  | .escape => "invalid escape"
  | .number => "invalid number"
  | .numberRange => "number out of range"
  | .controlCharacter => "control character (\\u0000-\\u001F) found while parsing a string"
  | .keyString => "key must be a string"
  | .loneSurrogate => "lone leading surrogate in hex escape"
  | .trailingComma => "trailing comma"
  | .trailingCharacters => "trailing characters"
  | .hexEscapeEnd => "unexpected end of hex escape"
  | .depth => "recursion limit exceeded"

/-- The number of bytes of a text in UTF-8. -/
def byteCount (s : List Char) : Nat :=
  s.foldr (fun c n => c.utf8Size + n) 0

/-- A cause, and the number of bytes behind the place where reading stopped. -/
structure Failure where
  cause : Cause
  bytesLeft : Nat
  deriving DecidableEq, Repr

/-- A failure in front of the text `s`. -/
def failAt {α : Type} (cause : Cause) (s : List Char) : Except Failure α :=
  .error ⟨cause, byteCount s⟩

/-- A failure behind the first byte of the text `s`, or at the end of the text. -/
def failBehind {α : Type} (cause : Cause) (s : List Char) : Except Failure α :=
  .error ⟨cause, byteCount s - 1⟩

/-- A cause with its position in the text. -/
structure ReadError where
  cause : Cause
  line : Nat
  column : Nat
  deriving DecidableEq, Repr

/-- The line and the column that lie a number of bytes behind a place. -/
def positionAfter (line column : Nat) : Nat → List Char → Nat × Nat
  | _, [] => (line, column)
  | bytes, c :: s =>
    if bytes < c.utf8Size then (line, column + bytes)
    else if c = '\n' then positionAfter (line + 1) 0 (bytes - 1) s
    else positionAfter line (column + c.utf8Size) (bytes - c.utf8Size) s

/-- The error for a failure in reading the text `s`. -/
def Failure.locate (f : Failure) (s : List Char) : ReadError :=
  let (line, column) := positionAfter 1 0 (byteCount s - f.bytesLeft) s
  ⟨f.cause, line, column⟩

/-- The message of an error. -/
def ReadError.message (e : ReadError) : String :=
  e.cause.message ++ " at line " ++ toString e.line ++ " column " ++ toString e.column

/-! ### Blanks and words -/

/-- A text without the blanks of JSON at its front. -/
def skipBlanks (s : List Char) : List Char :=
  s.dropWhile fun c => c == ' ' || c == '\n' || c == '\t' || c == '\r'

/-- The text after the rest of a word. -/
def expectWord : List Char → List Char → Except Failure (List Char)
  | [], s => .ok s
  | _ :: _, [] => failAt .endInValue []
  | w :: ws, c :: s => if c = w then expectWord ws s else failBehind .word (c :: s)

/-! ### Numbers -/

/-- The bound of the digits that are kept of a number. -/
def significandLimit : Nat := Nat.pow 2 64

/-- The significand extended by digits as long as it stays below the limit, and the digits
that are left. -/
def takeDigits (significand : Nat) : List Char → Nat × List Char
  | [] => (significand, [])
  | d :: ds =>
    let n := 10 * significand + (d.toNat - '0'.toNat)
    if n < significandLimit then takeDigits n ds else (significand, d :: ds)

/-- The product of a float and a power of ten, by at most `fuel + 1` operations, and `none`
when it is infinite. -/
def scale? (f : Float) (e : Int) : Nat → Option Float
  | 0 => some 0.0
  | fuel + 1 =>
    if e.natAbs ≤ 308 then
      let power := Decimal.nearest 1 e.natAbs
      if 0 ≤ e then
        if (f * power).isInf then none else some (f * power)
      else some (f / power)
    else if f == 0.0 then some f
    else if 0 ≤ e then none
    else scale? (f / Decimal.nearest 1 308) (e + 308) fuel

/-- The number for a sign, a significand and an exponent, in front of the text `rest`. -/
def floatOfParts (negative : Bool) (significand : Nat) (e : Int) (rest : List Char) :
    Except Failure (Number × List Char) :=
  match scale? (Float.ofNat significand) e 8 with
  | none => failAt .numberRange rest
  | some f => .ok (.float (if negative then -f else f), rest)

/-- The bound of an exponent. -/
def exponentLimit : Nat := Nat.pow 2 31

/-- The exponent extended by digits as long as it stays below the limit, and the digits
that are left. -/
def takeExponentDigits (n : Nat) : List Char → Nat × List Char
  | [] => (n, [])
  | d :: ds =>
    let m := 10 * n + (d.toNat - '0'.toNat)
    if m < exponentLimit then takeExponentDigits m ds else (n, d :: ds)

/-- The number whose exponent comes next, after the letter for it. -/
def readExponent (negative : Bool) (significand : Nat) (e : Int) (s : List Char) :
    Except Failure (Number × List Char) :=
  let (minus, s) := match s with
    | '+' :: r => (false, r)
    | '-' :: r => (true, r)
    | r => (false, r)
  match s with
  | [] => failAt .endInValue []
  | c :: r =>
    if !c.isDigit then failBehind .number (c :: r)
    else
      let rest := (c :: r).dropWhile Char.isDigit
      match takeExponentDigits 0 ((c :: r).takeWhile Char.isDigit) with
      | (n, []) => floatOfParts negative significand (if minus then e - n else e + n) rest
      | (_, _ :: ds) =>
        if significand ≠ 0 ∧ !minus then failAt .numberRange (ds ++ rest)
        else .ok (.float (if negative then -0.0 else 0.0), rest)

/-- The number whose fraction comes next, after the point. -/
def readFraction (negative : Bool) (significand : Nat) (e : Int) (s : List Char) :
    Except Failure (Number × List Char) :=
  let ds := s.takeWhile Char.isDigit
  let rest := s.dropWhile Char.isDigit
  if ds.isEmpty then failBehind (if s.isEmpty then .endInValue else .number) s
  else
    let (n, left) := takeDigits significand ds
    let e := e - (ds.length - left.length : Nat)
    match rest with
    | 'e' :: r | 'E' :: r => readExponent negative n e r
    | _ => floatOfParts negative n e rest

/-- The number whose integer digits have been read. -/
def finishNumber (negative : Bool) (significand : Nat) (s : List Char) :
    Except Failure (Number × List Char) :=
  match s with
  | '.' :: r => readFraction negative significand 0 r
  | 'e' :: r | 'E' :: r => readExponent negative significand 0 r
  | _ =>
    if !negative then .ok (.integer significand, s)
    else if significand = 0 ∨ Nat.pow 2 63 < significand then
      .ok (.float (-Float.ofNat significand), s)
    else .ok (.integer (-significand), s)

/-- The number whose integer digits have more than the limit: the digits left are counted
by the exponent. -/
def finishLongNumber (negative : Bool) (significand left : Nat) (s : List Char) :
    Except Failure (Number × List Char) :=
  match s with
  | '.' :: r => readFraction negative significand left r
  | 'e' :: r | 'E' :: r => readExponent negative significand left r
  | _ => floatOfParts negative significand left s

/-- The number at the front of a text, after its sign. -/
def readNumber (negative : Bool) (s : List Char) : Except Failure (Number × List Char) :=
  match s with
  | [] => failAt .endInValue []
  | '0' :: r =>
    if (r.head?.any Char.isDigit) then failBehind .number r else finishNumber negative 0 r
  | c :: r =>
    if !c.isDigit then failBehind .number (c :: r)
    else
      let rest := (c :: r).dropWhile Char.isDigit
      match takeDigits 0 ((c :: r).takeWhile Char.isDigit) with
      | (n, []) => finishNumber negative n rest
      | (n, left) => finishLongNumber negative n left.length rest

/-! ### Strings -/

/-- The number that four hexadecimal digits write.  Four bytes are taken in any case. -/
def readHex (s : List Char) : Except Failure (Nat × List Char) :=
  if byteCount s < 4 then failAt .endInString []
  else
    match s with
    | a :: b :: c :: d :: r =>
      match [a, b, c, d].mapM Unicode.hexDigit? with
      | some _ => .ok (Unicode.hexValue [a, b, c, d], r)
      | none => .error ⟨.escape, byteCount s - 4⟩
    | _ => .error ⟨.escape, byteCount s - 4⟩

/-- The character of an escape by code units, after its letter.  A leading surrogate takes
a second escape. -/
def readUnits (s : List Char) : Except Failure (Char × List Char) := do
  let (n, r) ← readHex s
  if 0xDC00 ≤ n ∧ n ≤ 0xDFFF then failAt .loneSurrogate r
  else if n < 0xD800 ∨ 0xDBFF < n then .ok (Char.ofNat n, r)
  else
    match r with
    | [] => failAt .endInString []
    | '\\' :: [] => failAt .endInString []
    | '\\' :: 'u' :: r => do
      let (m, r) ← readHex r
      if m < 0xDC00 ∨ 0xDFFF < m then failAt .loneSurrogate r
      else .ok (Char.ofNat (0x10000 + (n - 0xD800) * 0x400 + (m - 0xDC00)), r)
    | '\\' :: r => failBehind .hexEscapeEnd r
    | _ => failBehind .hexEscapeEnd r

/-- The character of an escape, after its backslash. -/
def readEscape (s : List Char) : Except Failure (Char × List Char) :=
  match s with
  | [] => failAt .endInString []
  | '"' :: r => .ok ('"', r)
  | '\\' :: r => .ok ('\\', r)
  | '/' :: r => .ok ('/', r)
  | 'b' :: r => .ok ('\x08', r)
  | 'f' :: r => .ok ('\x0c', r)
  | 'n' :: r => .ok ('\n', r)
  | 'r' :: r => .ok ('\r', r)
  | 't' :: r => .ok ('\t', r)
  | 'u' :: r => readUnits r
  | c :: r => failBehind .escape (c :: r)

/-- The characters of a string after its opening quote, where `fuel` is at least the length
of the text. -/
def readString (fuel : Nat) (s : List Char) : Except Failure (List Char × List Char) :=
  match fuel, s with
  | _, [] | 0, _ => failAt .endInString []
  | _, '"' :: r => .ok ([], r)
  | fuel + 1, '\\' :: r => do
    let (c, r) ← readEscape r
    let (cs, r) ← readString fuel r
    return (c :: cs, r)
  | fuel + 1, c :: r =>
    if c.toNat < 0x20 then failBehind .controlCharacter (c :: r)
    else do
      let (cs, r) ← readString fuel r
      return (c :: cs, r)

/-! ### Values -/

/-- The text after the colon between a key and its value. -/
def expectColon (s : List Char) : Except Failure (List Char) :=
  match skipBlanks s with
  | [] => failAt .endInObject []
  | ':' :: r => .ok r
  | r => failBehind .colon r

/-- The text of the next item of an array.  Only the first one stands without a comma in
front. -/
def itemStart (isFirst : Bool) (s : List Char) : Except Failure (List Char) :=
  if isFirst then .ok s
  else if s.head? = some ',' then
    match skipBlanks (s.drop 1) with
    | [] => failAt .endInValue []
    | ']' :: r => failBehind .trailingComma (']' :: r)
    | r => .ok r
  else failBehind .listComma s

/-- The text of the next member of an object, from the quote of its key on.  Only the first
one stands without a comma in front. -/
def memberStart (isFirst : Bool) (s : List Char) : Except Failure (List Char) :=
  if isFirst then
    if s.head? = some '"' then .ok s else failBehind .keyString s
  else if s.head? = some ',' then
    match skipBlanks (s.drop 1) with
    | [] => failAt .endInValue []
    | '"' :: r => .ok ('"' :: r)
    | '\x7d' :: r => failBehind .trailingComma ('\x7d' :: r)
    | r => failBehind .keyString r
  else failBehind .objectComma s

mutual

/-- The value at the front of a text, with at most `depth` levels of nesting.  The fuel is
at least the length of the text. -/
def readValue (depth : Nat) (fuel : Nat) (s : List Char) :
    Except Failure (Json × List Char) :=
  match fuel with
  | 0 => failAt .endInValue []
  | fuel + 1 =>
    match skipBlanks s with
    | [] => failAt .endInValue []
    | 'n' :: r => do return (.null, ← expectWord "ull".toList r)
    | 't' :: r => do return (.bool true, ← expectWord "rue".toList r)
    | 'f' :: r => do return (.bool false, ← expectWord "alse".toList r)
    | '-' :: r => do
      let (n, r) ← readNumber true r
      return (.number n, r)
    | '"' :: r => do
      let (cs, r) ← readString r.length r
      return (.string (String.ofList cs), r)
    | '[' :: r =>
      if depth = 0 then failAt .depth r
      else do
        let (items, r) ← readItems (depth - 1) fuel true r
        return (.array items, r)
    | '\x7b' :: r =>
      if depth = 0 then failAt .depth r
      else do
        let (pairs, r) ← readMembers (depth - 1) fuel true r
        return (.object (ofPairs pairs), r)
    | c :: r =>
      if c.isDigit then do
        let (n, r) ← readNumber false (c :: r)
        return (.number n, r)
      else failBehind .value (c :: r)

/-- The items of an array up to its closing bracket. -/
def readItems (depth : Nat) (fuel : Nat) (isFirst : Bool) (s : List Char) :
    Except Failure (List Json × List Char) :=
  match fuel with
  | 0 => failAt .endInList []
  | fuel + 1 => do
    let s := skipBlanks s
    if s.isEmpty then failAt .endInList []
    else if s.head? = some ']' then .ok ([], s.drop 1)
    else
      let start ← itemStart isFirst s
      let (v, r) ← readValue depth fuel start
      let (vs, r) ← readItems depth fuel false r
      return (v :: vs, r)

/-- The members of an object up to its closing brace. -/
def readMembers (depth : Nat) (fuel : Nat) (isFirst : Bool) (s : List Char) :
    Except Failure (List (String × Json) × List Char) :=
  match fuel with
  | 0 => failAt .endInObject []
  | fuel + 1 => do
    let s := skipBlanks s
    if s.isEmpty then failAt .endInObject []
    else if s.head? = some '\x7d' then .ok ([], s.drop 1)
    else
      let start ← memberStart isFirst s
      let (key, r) ← readString start.length (start.drop 1)
      let r ← expectColon r
      let (v, r) ← readValue depth fuel r
      let (ms, r) ← readMembers depth fuel false r
      return ((String.ofList key, v) :: ms, r)

end

/-- The greatest depth of nesting. -/
def maxDepth : Nat := 127

/-- The value that all of a text writes, with failures that are not located yet. -/
def readAll (s : List Char) : Except Failure Json := do
  let (v, r) ← readValue maxDepth (s.length + 1) s
  match skipBlanks r with
  | [] => return v
  | r => failBehind .trailingCharacters r

/-- The value that a text writes. -/
def ofText (s : List Char) : Except ReadError Json :=
  match readAll s with
  | .ok v => .ok v
  | .error f => .error (f.locate s)

end FieldFormula.Json
