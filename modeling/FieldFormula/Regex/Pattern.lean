/-!
# Patterns

The written form of a regular expression, as a tree.  A pattern keeps what its text says:
flags, groups, classes of characters and how they are combined.  What it matches is said
by the regular expression that it stands for.
-/

namespace FieldFormula.Regex

/-- The flags of a pattern. -/
inductive Flag where
  /-- Case is ignored. -/
  | ignoreCase
  /-- The line assertions hold at every line. -/
  | multiLine
  /-- The dot stands for line feeds also. -/
  | dotAll
  /-- Repetitions are lazy, and those marked lazy are greedy. -/
  | swapGreed
  /-- Classes and assertions are those of Unicode rather than those of ASCII. -/
  | unicode
  /-- A carriage return with a line feed ends a line. -/
  | pairedLines
  /-- Blanks and comments in the pattern are skipped. -/
  | spaced
  deriving DecidableEq, Repr

/-- Flags that are turned on or off. -/
abbrev FlagSettings := List (Flag × Bool)

/-- A condition on a place in a text. -/
inductive Assertion where
  | lineStart
  | lineEnd
  | textStart
  | textEnd
  | wordBoundary
  | notWordBoundary
  | wordStart
  | wordEnd
  | wordStartHalf
  | wordEndHalf
  deriving DecidableEq, Repr

/-- The classes written as a backslash and one letter. -/
inductive ShortClass where
  | digit
  | space
  | word
  deriving DecidableEq, Repr

/-- The classes of ASCII characters that have a name. -/
inductive NamedClass where
  | alnum
  | alpha
  | ascii
  | blank
  | cntrl
  | digit
  | graph
  | lower
  | print
  | punct
  | space
  | upper
  | word
  | xdigit
  deriving DecidableEq, Repr

/-- The class with a name. -/
def NamedClass.ofName? : String → Option NamedClass
  | "alnum" => some .alnum
  | "alpha" => some .alpha
  | "ascii" => some .ascii
  | "blank" => some .blank
  | "cntrl" => some .cntrl
  | "digit" => some .digit
  | "graph" => some .graph
  | "lower" => some .lower
  | "print" => some .print
  | "punct" => some .punct
  | "space" => some .space
  | "upper" => some .upper
  | "word" => some .word
  | "xdigit" => some .xdigit
  | _ => none

/-- A query for characters with a property: a name alone, or a property with a value. -/
inductive PropertyQuery where
  | named (name : List Char)
  | valued (property value : List Char)
  deriving DecidableEq, Repr

/-- A character that stands for itself.  One written as `\x` with two digits may also mean
a byte. -/
structure Literal where
  char : Char
  isByte : Bool
  deriving DecidableEq, Repr

/-- The operations on two sets of characters. -/
inductive SetOperator where
  | intersection
  | difference
  | symmetricDifference
  deriving DecidableEq, Repr

mutual

/-- A part of a set of characters in brackets. -/
inductive SetItem where
  | literal (l : Literal)
  | range (first last : Literal)
  | named (c : NamedClass) (negated : Bool)
  | short (c : ShortClass) (negated : Bool)
  | property (q : PropertyQuery) (negated : Bool)
  | nested (negated : Bool) (s : SetExpr)

/-- A set of characters in brackets: a union of parts, or an operation on two sets. -/
inductive SetExpr where
  | union (items : List SetItem)
  | operation (o : SetOperator) (left right : SetExpr)

end

/-- The written form of a regular expression. -/
inductive Pattern where
  | literal (l : Literal)
  | dot
  | assertion (a : Assertion)
  | short (c : ShortClass) (negated : Bool)
  | property (q : PropertyQuery) (negated : Bool)
  | set (negated : Bool) (s : SetExpr)
  | directive (flags : FlagSettings)
  | repetition (least : Nat) (most : Option Nat) (greedy : Bool) (body : Pattern)
  | group (flags : FlagSettings) (body : Pattern)
  | concat (parts : List Pattern)
  | alternatives (parts : List Pattern)

/-- The concatenation of some patterns; one alone is itself. -/
def Pattern.ofParts : List Pattern → Pattern
  | [p] => p
  | parts => .concat parts

/-! ### Nesting -/

mutual

/-- The nesting of a part of a set. -/
def SetItem.depth : SetItem → Nat
  | .nested _ s => s.depth + 1
  | _ => 0

/-- The nesting of a set: operations, nested sets and unions of several parts count. -/
def SetExpr.depth : SetExpr → Nat
  | .union [] => 0
  | .union [i] => i.depth
  | .union (i :: j :: items) => max i.depth (max j.depth (SetItem.depthOfAll items)) + 1
  | .operation _ left right => max left.depth right.depth + 1

/-- The greatest nesting of some parts of a set. -/
def SetItem.depthOfAll : List SetItem → Nat
  | [] => 0
  | i :: items => max i.depth (SetItem.depthOfAll items)

end

mutual

/-- The nesting of a pattern: every compound pattern counts, and so does a set. -/
def Pattern.depth : Pattern → Nat
  | .set _ s => s.depth + 1
  | .repetition _ _ _ body => body.depth + 1
  | .group _ body => body.depth + 1
  | .concat [] => 0
  | .concat (p :: parts) => max p.depth (Pattern.depthOfAll parts) + 1
  | .alternatives parts => Pattern.depthOfAll parts + 1
  | _ => 0

/-- The greatest nesting of some patterns. -/
def Pattern.depthOfAll : List Pattern → Nat
  | [] => 0
  | p :: parts => max p.depth (Pattern.depthOfAll parts)

end

/-! ### Errors -/

/-- The reasons why a text is no pattern, or a pattern no regular expression. -/
inductive PatternError where
  | setEscape
  | rangeOrder
  | rangeBoundary
  | unclosedSet
  | invalidDecimal
  | emptyHex
  | invalidHex
  | invalidHexDigit
  | endInEscape
  | unknownEscape
  | danglingNegation
  | duplicateFlag
  | repeatedNegation
  | endInFlags
  | unknownFlag
  | duplicateName
  | emptyName
  | invalidName
  | unclosedName
  | unclosedGroup
  | unopenedGroup
  | nesting
  | repetitionOrder
  | repetitionDecimal
  | unclosedRepetition
  | missingOperand
  | unclosedBoundary
  | unknownBoundary
  | endInBoundary
  | invalidProperty
  | backreference
  | lookAround
  | unicodeNotAllowed
  | invalidBytes
  | unknownProperty
  | unknownPropertyValue
  | size
  deriving DecidableEq, Repr

/-- The greatest nesting of a pattern. -/
def nestingLimit : Nat := 250

/-- The greatest size of a regular expression in bytes. -/
def sizeLimit : Nat := 10485760

/-- The message of an error. -/
def PatternError.message : PatternError → String
  | .setEscape => "invalid escape sequence found in character class"
  | .rangeOrder => "invalid character class range, the start must be <= the end"
  | .rangeBoundary => "invalid range boundary, must be a literal"
  | .unclosedSet => "unclosed character class"
  | .invalidDecimal => "decimal literal invalid"
  | .emptyHex => "hexadecimal literal empty"
  | .invalidHex => "hexadecimal literal is not a Unicode scalar value"
  | .invalidHexDigit => "invalid hexadecimal digit"
  | .endInEscape => "incomplete escape sequence, reached end of pattern prematurely"
  | .unknownEscape => "unrecognized escape sequence"
  | .danglingNegation => "dangling flag negation operator"
  | .duplicateFlag => "duplicate flag"
  | .repeatedNegation => "flag negation operator repeated"
  | .endInFlags => "expected flag but got end of regex"
  | .unknownFlag => "unrecognized flag"
  | .duplicateName => "duplicate capture group name"
  | .emptyName => "empty capture group name"
  | .invalidName => "invalid capture group character"
  | .unclosedName => "unclosed capture group name"
  | .unclosedGroup => "unclosed group"
  | .unopenedGroup => "unopened group"
  | .nesting =>
    "exceed the maximum number of nested parentheses/brackets (" ++ toString nestingLimit ++ ")"
  | .repetitionOrder => "invalid repetition count range, the start must be <= the end"
  | .repetitionDecimal => "repetition quantifier expects a valid decimal"
  | .unclosedRepetition => "unclosed counted repetition"
  | .missingOperand => "repetition operator missing expression"
  | .unclosedBoundary =>
    "special word boundary assertion is either unclosed or contains an invalid character"
  | .unknownBoundary =>
    "unrecognized special word boundary assertion, valid choices are: " ++
      "start, end, start-half or end-half"
  | .endInBoundary =>
    "found either the beginning of a special word boundary or a bounded repetition " ++
      "on a \\b with an opening brace, but no closing brace"
  | .invalidProperty => "invalid Unicode character class"
  | .backreference => "backreferences are not supported"
  | .lookAround => "look-around, including look-ahead and look-behind, is not supported"
  | .unicodeNotAllowed => "Unicode not allowed here"
  | .invalidBytes => "pattern can match invalid UTF-8"
  | .unknownProperty => "Unicode property not found"
  | .unknownPropertyValue => "Unicode property value not found"
  | .size => "Compiled regex exceeds size limit of " ++ toString sizeLimit ++ " bytes."

end FieldFormula.Regex
