import FieldFormula.Regex.Pattern
import FieldFormula.Text.Blank
import FieldFormula.Unicode.Property

/-!
# Reading patterns

`Pattern.ofText` reads a text as a pattern.  The text is read from left to right, and the
first fault decides the error.  In a spaced pattern, blanks and comments between the
marks of the pattern are skipped.
-/

namespace FieldFormula.Regex

open Text

/-- What remains of a text, whether it is a spaced pattern, and the names of the groups
read so far. -/
structure Cursor where
  rest : List Char
  spaced : Bool
  names : List (List Char)

/-- A step of reading, which may fail. -/
abbrev Reader := StateT Cursor (Except PatternError)

namespace Reader

/-! ### Characters -/

/-- A text without the blanks and the comments at its front, which may begin inside a
comment. -/
def dropSpace (inComment : Bool) : List Char → List Char
  | [] => []
  | c :: r =>
    if inComment then dropSpace (c != '\n') r
    else if isBlank c then dropSpace false r
    else if c == '#' then dropSpace true r
    else c :: r

/-- The remaining text. -/
def rest : Reader (List Char) := do
  return (← get).rest

/-- The next character. -/
def peek : Reader (Option Char) := do
  return (← rest).head?

/-- Whether the text is at its end. -/
def atEnd : Reader Bool := do
  return (← rest).isEmpty

/-- Passes some characters. -/
def advance (n : Nat) : Reader Unit :=
  modify fun s => { s with rest := s.rest.drop n }

/-- Passes the blanks and comments of a spaced pattern. -/
def skipSpace : Reader Unit :=
  modify fun s => if s.spaced then { s with rest := dropSpace false s.rest } else s

/-- Passes one character, and the blanks and comments behind it. -/
def advanceSpaced : Reader Unit := do
  advance 1
  skipSpace

/-- Fails at the end of the text. -/
def needMore (e : PatternError) : Reader Unit := do
  if ← atEnd then throw e

/-- The next character, which is passed. -/
def next (e : PatternError) : Reader Char := do
  match ← peek with
  | some c => do advance 1; return c
  | none => throw e

/-- Whether the text goes on with `mark`, which is then passed. -/
def passMark (mark : List Char) : Reader Bool := do
  if mark.isPrefixOf (← rest) then
    advance mark.length
    return true
  else
    return false

/-- The character behind the next one and the space after that.  One comment sign is
passed with the blanks around it; where nothing follows the space, it counts itself. -/
def peekBehind : Reader (Option Char) := do
  let s ← get
  let behind := s.rest.drop 1
  if s.spaced then
    let blanks := behind.dropWhile isBlank
    let r := if blanks.head? = some '#' then (blanks.drop 1).dropWhile isBlank else blanks
    return if r.isEmpty then behind.head? else r.head?
  else
    return behind.head?

/-- The characters of a run with the property `p`; space between them is skipped. -/
def takeSpaced (p : Char → Bool) : Nat → Reader (List Char)
  | 0 => return []
  | fuel + 1 => do
    match ← peek with
    | some c =>
      if p c then
        advanceSpaced
        return c :: (← takeSpaced p fuel)
      else
        return []
    | none => return []

/-- The longest run of characters with the property `p`. -/
def takeRun (p : Char → Bool) : Reader (List Char) := do
  takeSpaced p (← rest).length

/-! ### Numbers -/

/-- The greatest decimal number of a pattern. -/
def decimalLimit : Nat := Nat.pow 2 32 - 1

/-- A decimal number with blanks around it.  Its error is left to the caller. -/
def decimal : Reader (Except PatternError Nat) := do
  modify fun s => { s with rest := s.rest.dropWhile isBlank }
  let digits ← takeRun Char.isDigit
  let _ ← takeRun isBlank
  let n := digits.foldl (fun n c => 10 * n + (c.toNat - '0'.toNat)) 0
  if digits.isEmpty then return .error .repetitionDecimal
  else if n > decimalLimit then return .error .invalidDecimal
  else return .ok n

/-- The character with a code point. -/
def scalar (n : Nat) : Reader Char :=
  if n.isValidChar then return Char.ofNat n else throw .invalidHex

/-- Whether a character is a hexadecimal digit. -/
def isHexDigit (c : Char) : Bool :=
  (Unicode.hexDigit? c).isSome

/-- A number of hexadecimal digits. -/
def hexDigits : Nat → Reader (List Char)
  | 0 => return []
  | n + 1 => do
    needMore .endInEscape
    match ← peek with
    | some c =>
      if isHexDigit c then
        advanceSpaced
        return c :: (← hexDigits n)
      else
        throw .invalidHexDigit
    | none => throw .endInEscape

/-- A character written with hexadecimal digits, of a fixed number or in braces. -/
def hexCharacter (kind : Char) : Reader Literal := do
  advanceSpaced
  needMore .endInEscape
  if (← peek) = some '\x7b' then
    advanceSpaced
    let digits ← takeRun isHexDigit
    match ← peek with
    | some '\x7d' =>
      advanceSpaced
      if digits.isEmpty then throw .emptyHex
      return ⟨← scalar (Unicode.hexValue digits), false⟩
    | some _ => throw .invalidHexDigit
    | none => throw .endInEscape
  else
    let digits ← hexDigits (if kind = 'x' then 2 else if kind = 'u' then 4 else 8)
    return ⟨← scalar (Unicode.hexValue digits), kind = 'x'⟩

/-! ### Escapes -/

/-- The text before the first place of `mark`, and the text behind it. -/
def cutAt? (mark : List Char) : List Char → Option (List Char × List Char)
  | [] => none
  | c :: r =>
    if mark.isPrefixOf (c :: r) then some ([], (c :: r).drop mark.length)
    else (cutAt? mark r).map fun (before, after) => (c :: before, after)

/-- The query that the text in the braces of a property spells. -/
def queryOfText (s : List Char) : PropertyQuery :=
  match cutAt? ['!', '='] s <|> cutAt? [':'] s <|> cutAt? ['='] s with
  | some (property, value) => .valued property value
  | none => .named s

/-- The class of the characters with a property; a capital letter negates it. -/
def propertyClass (letter : Char) : Reader Pattern := do
  advanceSpaced
  needMore .endInEscape
  if (← peek) = some '\x7b' then
    advanceSpaced
    let name ← takeRun (· != '\x7d')
    needMore .endInEscape
    advance 1
    return .property (queryOfText name) (letter = 'P')
  else
    match ← peek with
    | some '\\' => throw .invalidProperty
    | some c =>
      advanceSpaced
      return .property (.named [c]) (letter = 'P')
    | none => throw .endInEscape

/-- The word boundary that a name in braces makes special.  Braces that start with no
letter are left for a repetition. -/
def boundary : Reader Assertion := do
  let isNameChar (c : Char) : Bool := c.isAlpha || c == '-'
  let before ← get
  advanceSpaced
  needMore .endInBoundary
  let name ← takeRun isNameChar
  if name.isEmpty then
    set before
    return .wordBoundary
  match ← peek with
  | some '\x7d' => advance 1
  | _ => throw .unclosedBoundary
  match String.ofList name with
  | "start" => return .wordStart
  | "end" => return .wordEnd
  | "start-half" => return .wordStartHalf
  | "end-half" => return .wordEndHalf
  | _ => throw .unknownBoundary

/-- The control characters written as a backslash and a letter. -/
def control? : Char → Option Char
  | 'a' => some '\x07'
  | 'f' => some '\x0c'
  | 't' => some '\t'
  | 'n' => some '\n'
  | 'r' => some '\r'
  | 'v' => some '\x0b'
  | _ => none

/-- Whether a backslash takes away the meaning of a character. -/
def isEscapable (c : Char) : Bool :=
  c.toNat < 0x80 && !c.isAlphanum && c != '<' && c != '>'

/-- The pattern that starts at a backslash. -/
def escape : Reader Pattern := do
  advance 1
  match ← peek with
  | none => throw .endInEscape
  | some c =>
    if c.isDigit then throw .backreference
    else if c = 'x' ∨ c = 'u' ∨ c = 'U' then return .literal (← hexCharacter c)
    else if c = 'p' ∨ c = 'P' then propertyClass c
    else
      advance 1
      if isEscapable c then return .literal ⟨c, false⟩
      match control? c with
      | some d => return .literal ⟨d, false⟩
      | none =>
        match c with
        | 'd' => return .short .digit false
        | 'D' => return .short .digit true
        | 's' => return .short .space false
        | 'S' => return .short .space true
        | 'w' => return .short .word false
        | 'W' => return .short .word true
        | 'A' => return .assertion .textStart
        | 'z' => return .assertion .textEnd
        | 'b' =>
          if (← peek) = some '\x7b' then return .assertion (← boundary)
          else return .assertion .wordBoundary
        | 'B' => return .assertion .notWordBoundary
        | '<' => return .assertion .wordStart
        | '>' => return .assertion .wordEnd
        | _ => throw .unknownEscape

/-! ### Sets -/

/-- The part of a set that an escape stands for. -/
def setItem : Pattern → Reader SetItem
  | .literal l => return .literal l
  | .short c negated => return .short c negated
  | .property q negated => return .property q negated
  | _ => throw .setEscape

/-- The literal that an escape stands for, as a boundary of a range. -/
def rangeBoundary : Pattern → Reader Literal
  | .literal l => return l
  | _ => throw .rangeBoundary

/-- One character of a set, or an escape. -/
def setCharacter : Reader Pattern := do
  if (← peek) = some '\\' then escape
  else return .literal ⟨← next .unclosedSet, false⟩

/-- A character, a class or a range of a set. -/
def setRange : Reader SetItem := do
  let first ← setCharacter
  skipSpace
  needMore .unclosedSet
  let behind ← peekBehind
  if (← peek) = some '-' ∧ behind ≠ some ']' ∧ behind ≠ some '-' then
    advanceSpaced
    needMore .unclosedSet
    let last ← setCharacter
    let lo ← rangeBoundary first
    let hi ← rangeBoundary last
    if hi.char < lo.char then throw .rangeOrder
    return .range lo hi
  else
    setItem first

/-- A named class at the front of a text, with the text behind it. -/
def namedClass? (s : List Char) : Option (SetItem × List Char) :=
  match s with
  | '[' :: ':' :: r =>
    let (negated, r) := match r with
      | '^' :: r => (true, r)
      | _ => (false, r)
    match r.span (· != ':') with
    | (name, ':' :: ']' :: r) =>
      (NamedClass.ofName? (String.ofList name)).map fun c => (.named c negated, r)
    | _ => none
  | _ => none

/-- The opening of a set: whether it is negated, and the literals at its front that would
mean something else later. -/
def setOpening : Reader (Bool × List SetItem) := do
  advanceSpaced
  needMore .unclosedSet
  let negated := (← peek) = some '^'
  if negated then
    advanceSpaced
    needMore .unclosedSet
  let hyphens ← takeRun (· == '-')
  needMore .unclosedSet
  if hyphens.isEmpty ∧ (← peek) = some ']' then
    advanceSpaced
    needMore .unclosedSet
    return (negated, [.literal ⟨']', false⟩])
  return (negated, hyphens.map fun c => .literal ⟨c, false⟩)

/-- The set of the parts read, with the operation that waits for it. -/
def joinSet (pending : Option (SetExpr × SetOperator)) (items : List SetItem) : SetExpr :=
  match pending with
  | some (left, o) => .operation o left (.union items.reverse)
  | none => .union items.reverse

/-- The operator of sets at the front of a text. -/
def setOperator? : List Char → Option SetOperator
  | '&' :: '&' :: _ => some .intersection
  | '-' :: '-' :: _ => some .difference
  | '~' :: '~' :: _ => some .symmetricDifference
  | _ => none

/-- The parts of a set up to its closing bracket; those read so far come last first. -/
def setBody : Nat → Option (SetExpr × SetOperator) → List SetItem → Reader SetExpr
  | 0, _, _ => throw .unclosedSet
  | fuel + 1, pending, items => do
    skipSpace
    let s ← rest
    match namedClass? s with
    | some (item, r) =>
      modify ({ · with rest := r })
      setBody fuel pending (item :: items)
    | none =>
      match setOperator? s with
      | some o =>
        advance 2
        setBody fuel (some (joinSet pending items, o)) []
      | none =>
        match s with
        | [] => throw .unclosedSet
        | ']' :: _ =>
          advance 1
          return joinSet pending items
        | '[' :: _ => do
          let (negated, opening) ← setOpening
          let inner ← setBody fuel none opening.reverse
          setBody fuel pending (.nested negated inner :: items)
        | _ => do
          let item ← setRange
          setBody fuel pending (item :: items)

/-- The set that starts at a bracket. -/
def bracketed : Reader Pattern := do
  let (negated, opening) ← setOpening
  return .set negated (← setBody ((← rest).length + 1) none opening.reverse)

/-! ### Repetitions -/

/-- What a repetition repeats: the last of the parts read, and the parts before it. -/
def operand : List Pattern → Reader (Pattern × List Pattern)
  | [] => throw .missingOperand
  | .directive _ :: _ => throw .missingOperand
  | p :: parts => return (p, parts)

/-- Whether a repetition is greedy: a question mark behind it says that it is not. -/
def greed : Reader Bool := do
  return !(← passMark ['?'])

/-- The least and the greatest count of a repetition in braces. -/
def counts : Reader (Nat × Option Nat) := do
  advanceSpaced
  needMore .unclosedRepetition
  let least ← decimal
  needMore .unclosedRepetition
  if (← peek) = some ',' then
    advanceSpaced
    needMore .unclosedRepetition
    if (← peek) = some '\x7d' then
      return (← liftM least, none)
    else
      let least ← liftM least
      let most ← decimal
      return (least, some (← liftM most))
  else
    let least ← liftM least
    return (least, some least)

/-- A repetition in braces of the last part read. -/
def counted (parts : List Pattern) : Reader (List Pattern) := do
  let (body, before) ← operand parts
  let (least, most) ← counts
  if (← peek) ≠ some '\x7d' then throw .unclosedRepetition
  advanceSpaced
  let greedy ← greed
  if most.any (· < least) then throw .repetitionOrder
  return .repetition least most greedy body :: before

/-- A repetition of the last part read, by its mark. -/
def repeated (least : Nat) (most : Option Nat) (parts : List Pattern) :
    Reader (List Pattern) := do
  let (body, before) ← operand parts
  advance 1
  return .repetition least most (← greed) body :: before

/-! ### Groups -/

/-- The flag with a letter. -/
def flag? : Char → Option Flag
  | 'i' => some .ignoreCase
  | 'm' => some .multiLine
  | 's' => some .dotAll
  | 'U' => some .swapGreed
  | 'u' => some .unicode
  | 'R' => some .pairedLines
  | 'x' => some .spaced
  | _ => none

/-- The flags up to a colon or a parenthesis, where `none` stands for the sign of negation;
those read so far come last first. -/
def flagItems : Nat → List (Option Flag) → Reader (List (Option Flag))
  | 0, _ => throw .endInFlags
  | fuel + 1, items => do
    match ← peek with
    | none => throw .endInFlags
    | some c =>
      if c = ':' ∨ c = ')' then
        if items.head? = some none then throw .danglingNegation
        return items.reverse
      else
        let item ← if c = '-' then pure none
          else match flag? c with
            | some f => pure (some f)
            | none => throw .unknownFlag
        if items.contains item then
          throw (if item.isNone then .repeatedNegation else .duplicateFlag)
        advance 1
        flagItems fuel (item :: items)

/-- The settings of some flags: those behind the sign of negation are turned off. -/
def settings (on : Bool) : List (Option Flag) → FlagSettings
  | [] => []
  | none :: items => settings false items
  | some f :: items => (f, on) :: settings on items

/-- The name of a group, up to its closing sign, behind the characters read so far. -/
def groupName : Nat → List Char → Reader (List Char)
  | 0, _ => throw .unclosedName
  | fuel + 1, name => do
    match ← peek with
    | none => throw .unclosedName
    | some '>' =>
      advance 1
      return name.reverse
    | some c =>
      let isValid :=
        c == '_' ||
          if name.isEmpty then Unicode.isAlphabetic c
          else c == '.' || c == '[' || c == ']' || Unicode.isAlphanumeric c
      if !isValid then throw .invalidName
      advance 1
      groupName fuel (c :: name)

/-- The start of a group: flags that hold for the rest of the enclosing group, or flags
that hold within the group. -/
inductive Opening where
  | directive (flags : FlagSettings)
  | group (flags : FlagSettings)

/-- The start of a group, from its parenthesis on. -/
def groupOpening : Reader Opening := do
  advance 1
  skipSpace
  let s ← rest
  if [['?', '='], ['?', '!'], ['?', '<', '='], ['?', '<', '!']].any (·.isPrefixOf s) then
    throw .lookAround
  if (← passMark ['?', 'P', '<']) || (← passMark ['?', '<']) then
    let name ← groupName ((← rest).length + 1) []
    if name.isEmpty then throw .emptyName
    if (← get).names.contains name then throw .duplicateName
    modify fun s => { s with names := name :: s.names }
    return .group []
  else if ← passMark ['?'] then
    needMore .unclosedGroup
    let items ← flagItems ((← rest).length + 1) []
    let closing ← next .endInFlags
    if closing = ')' then
      if items.isEmpty then throw .missingOperand
      return .directive (settings true items)
    else
      return .group (settings true items)
  else
    return .group []

/-- The spacing that some flags ask for. -/
def spacing (flags : FlagSettings) : Option Bool :=
  (flags.find? (·.1 = .spaced)).map (·.2)

/-- Turns the skipping of space on or off. -/
def setSpaced (spaced : Bool) : Reader Unit :=
  modify fun s => { s with spaced }

/-- The pattern of some branches and of the parts of the last branch, each last first. -/
def joinBranches (branches : List Pattern) (parts : List Pattern) : Pattern :=
  match branches with
  | [] => .ofParts parts.reverse
  | _ => .alternatives (.ofParts parts.reverse :: branches).reverse

/-- The pattern up to a closing parenthesis or the end, behind the branches and the parts
read so far, which come last first. -/
def body : Nat → List Pattern → List Pattern → Reader Pattern
  | 0, _, _ => throw .unclosedGroup
  | fuel + 1, branches, parts => do
    skipSpace
    match ← peek with
    | none => return joinBranches branches parts
    | some ')' => return joinBranches branches parts
    | some '|' =>
      advance 1
      body fuel (.ofParts parts.reverse :: branches) []
    | some '(' =>
      match ← groupOpening with
      | .directive flags =>
        (spacing flags).forM setSpaced
        body fuel branches (.directive flags :: parts)
      | .group flags =>
        let outer := (← get).spaced
        (spacing flags).forM setSpaced
        let inner ← body fuel [] []
        needMore .unclosedGroup
        advance 1
        setSpaced outer
        body fuel branches (.group flags inner :: parts)
    | some '[' => body fuel branches ((← bracketed) :: parts)
    | some '?' => body fuel branches (← repeated 0 (some 1) parts)
    | some '*' => body fuel branches (← repeated 0 none parts)
    | some '+' => body fuel branches (← repeated 1 none parts)
    | some '\x7b' => body fuel branches (← counted parts)
    | some '\\' => body fuel branches ((← escape) :: parts)
    | some '.' =>
      advance 1
      body fuel branches (.dot :: parts)
    | some '^' =>
      advance 1
      body fuel branches (.assertion .lineStart :: parts)
    | some '$' =>
      advance 1
      body fuel branches (.assertion .lineEnd :: parts)
    | some c =>
      advance 1
      body fuel branches (.literal ⟨c, false⟩ :: parts)

end Reader

/-- The pattern that a text spells. -/
def Pattern.ofText (s : List Char) : Except PatternError Pattern := do
  let (p, cursor) ← (Reader.body (s.length + 1) [] []).run ⟨s, false, []⟩
  if !cursor.rest.isEmpty then throw .unopenedGroup
  if nestingLimit < p.depth then throw .nesting
  return p

end FieldFormula.Regex
