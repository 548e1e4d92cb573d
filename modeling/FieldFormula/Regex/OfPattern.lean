import FieldFormula.Regex
import FieldFormula.Regex.Reading
import FieldFormula.Unicode.Fold
import FieldFormula.Unicode.Script

/-!
# The regular expression of a pattern

`Regex.ofPattern` says which regular expression a pattern stands for.  The flags of a
pattern decide the meaning of its parts and hold up to the end of their group.  Without
the flag of Unicode, a pattern that could match a part of a character is refused.
-/

namespace FieldFormula

open Unicode

/-! ### Properties -/

/-- The name of a property without capitals, separators and a leading `is`. -/
def plainName (name : List Char) : String :=
  let drop (s : List Char) : List Char :=
    (s.filter fun c => c != ' ' && c != '_' && c != '-' && c.toNat < 0x80).map Char.toLower
  match name with
  | i :: s :: r =>
    if i.toLower = 'i' ∧ s.toLower = 's' then
      String.ofList (if drop r = ['c'] then ['i', 's', 'c'] else drop r)
    else
      String.ofList (drop name)
  | _ => String.ofList (drop name)

/-- The characters of a general category or of a group of categories. -/
def categoryRanges? (name : String) : Option Ranges :=
  match name with
  | "any" => some (Ranges.none.complement)
  | "ascii" => some ⟨#[(0, 0x7F)]⟩
  | "assigned" => some (Category.unassigned.ranges.complement)
  | _ => (Category.names.find? (·.1.contains name)).map (.ofCategories ·.2)

/-- The characters of a script. -/
def scriptRanges? (name : String) : Option Ranges :=
  (Script.all.find? (·.names.contains name)).map (·.ranges)

/-- Whether a name belongs to a category or a script that has no characters. -/
def isEmptyValue (name : String) : Bool :=
  name == "cs" || name == "surrogate" || Script.emptyNames.contains name

/-- The abbreviations that name a category rather than a property. -/
def categoryAbbreviations : List String := ["cf", "sc", "lc"]

/-- The characters with a property, a general category or a script. -/
def namedRanges (name : String) : Except Regex.PatternError Ranges :=
  let property :=
    if categoryAbbreviations.contains name then none
    else (Property.all.find? (·.names.contains name)).map (·.ranges)
  match property <|> categoryRanges? name <|> scriptRanges? name with
  | some r => .ok r
  | none => .error (if isEmptyValue name then .unknownPropertyValue else .unknownProperty)

/-- The names of further properties, none of whose values can be asked for. -/
def furtherProperties : List String := [
  "age", "bc", "bidiclass", "blk", "block", "bpt", "bidipairedbrackettype", "casefolding",
  "ccc", "canonicalcombiningclass", "cf", "decompositiontype", "dt", "ea", "eastasianwidth",
  "gcb", "graphemeclusterbreak", "hangulsyllabletype", "hst", "indicpositionalcategory",
  "indicsyllabiccategory", "inpc", "insc", "isc", "isocomment", "jg", "joininggroup",
  "joiningtype", "jt", "lb", "lc", "linebreak", "lowercasemapping", "na", "na1", "name", "nt",
  "numerictype", "numericvalue", "nv", "sb", "scriptextensions", "scx", "sentencebreak",
  "simplecasefolding", "simplelowercasemapping", "simpletitlecasemapping",
  "simpleuppercasemapping", "slc", "stc", "suc", "tc", "titlecasemapping", "uc", "unicode1name",
  "uppercasemapping", "verticalorientation", "vo", "wb", "wordbreak"]

/-- The characters for which a property has a value. -/
def valuedRanges (property value : String) : Except Regex.PatternError Ranges :=
  let known :=
    Property.all.any (·.names.contains property) || furtherProperties.contains property
  let found? :=
    if property = "gc" ∨ property = "generalcategory" then some (categoryRanges? value)
    else if property = "sc" ∨ property = "script" then some (scriptRanges? value)
    else if known then some none
    else none
  match found? with
  | some (some r) => .ok r
  | some none => .error .unknownPropertyValue
  | none => .error .unknownProperty

/-- The characters that answer a query. -/
def Regex.PropertyQuery.ranges : PropertyQuery → Except PatternError Ranges
  | .named name => namedRanges (plainName name)
  | .valued property value => valuedRanges (plainName property) (plainName value)

namespace Regex

/-! ### Classes -/

/-- The characters of a named class. -/
def NamedClass.ranges : NamedClass → Ranges
  | .alnum => .ofText "30-39 41-5A 61-7A"
  | .alpha => .ofText "41-5A 61-7A"
  | .ascii => .ofText "0-7F"
  | .blank => .ofText "9 20"
  | .cntrl => .ofText "0-1F 7F"
  | .digit => .ofText "30-39"
  | .graph => .ofText "21-7E"
  | .lower => .ofText "61-7A"
  | .print => .ofText "20-7E"
  | .punct => .ofText "21-2F 3A-40 5B-60 7B-7E"
  | .space => .ofText "9-D 20"
  | .upper => .ofText "41-5A"
  | .word => .ofText "30-39 41-5A 5F 61-7A"
  | .xdigit => .ofText "30-39 41-46 61-66"

/-- The characters of the Unicode property `White_Space`. -/
def blankRanges : Ranges :=
  .ofText "9-D 20 85 A0 1680 2000-200A 2028-2029 202F 205F 3000"

/-- The characters of a class in Unicode. -/
def ShortClass.ranges : ShortClass → Ranges
  | .digit => decimalDigits
  | .space => blankRanges
  | .word => wordRanges

/-- The characters of a class in ASCII. -/
def ShortClass.asciiRanges : ShortClass → Ranges
  | .digit => NamedClass.digit.ranges
  | .space => NamedClass.space.ranges
  | .word => NamedClass.word.ranges

/-! ### Sets -/

/-- The flags that are turned on. -/
structure Mode where
  ignoreCase : Bool
  multiLine : Bool
  dotAll : Bool
  swapGreed : Bool
  unicode : Bool
  pairedLines : Bool

/-- The flags at the start of a pattern. -/
def Mode.initial : Mode :=
  ⟨false, false, false, false, true, false⟩

/-- The mode after a flag is turned on or off. -/
def Mode.set (m : Mode) (setting : Flag × Bool) : Mode :=
  let (f, on) := setting
  match f with
  | .ignoreCase => { m with ignoreCase := on }
  | .multiLine => { m with multiLine := on }
  | .dotAll => { m with dotAll := on }
  | .swapGreed => { m with swapGreed := on }
  | .unicode => { m with unicode := on }
  | .pairedLines => { m with pairedLines := on }
  | .spaced => m

/-- The set with the case variants in ASCII of its characters. -/
def withAsciiVariants (r : Ranges) : Ranges :=
  let others := (List.range 0x80).filter fun n =>
    let c := Char.ofNat n
    r.contains c.toLower || r.contains c.toUpper
  r.union (.ofBounds (others.map fun n => (n, n)))

/-- The set with the case variants of its characters, if case is ignored. -/
def Mode.folded (m : Mode) (r : Ranges) : Ranges :=
  if !m.ignoreCase then r
  else if m.unicode then r.withVariants
  else withAsciiVariants r

/-- The set or, negated, its complement.  No complement lies within ASCII. -/
def Mode.negated (m : Mode) (negated : Bool) (r : Ranges) : Except PatternError Ranges :=
  if !negated then .ok r
  else if m.unicode then .ok r.complement
  else .error .invalidBytes

/-- The character of a literal in a set. -/
def Mode.setLiteral (m : Mode) (l : Literal) : Except PatternError Char :=
  if m.unicode || l.char.toNat < 0x80 then .ok l.char
  else if l.isByte then .error .invalidBytes
  else .error .unicodeNotAllowed

/-- The characters of a class. -/
def Mode.shortClass (m : Mode) (c : ShortClass) (negated : Bool) :
    Except PatternError Ranges :=
  m.negated negated (if m.unicode then c.ranges else c.asciiRanges)

/-- The characters that a query asks for. -/
def Mode.property (m : Mode) (q : PropertyQuery) (negated : Bool) :
    Except PatternError Ranges := do
  if !m.unicode then throw .unicodeNotAllowed
  m.negated negated (m.folded (← q.ranges))

/-- The result of an operation on two sets. -/
def SetOperator.apply : SetOperator → Ranges → Ranges → Ranges
  | .intersection => Ranges.inter
  | .difference => Ranges.diff
  | .symmetricDifference => Ranges.symmDiff

mutual

/-- The characters of a part of a set. -/
def SetItem.ranges (m : Mode) : SetItem → Except PatternError Ranges
  | .literal l => do
    return .single (← m.setLiteral l)
  | .range first last => do
    return ⟨#[((← m.setLiteral first).toNat, (← m.setLiteral last).toNat)]⟩
  | .named c negated => m.negated negated (m.folded c.ranges)
  | .short c negated => m.shortClass c negated
  | .property q negated => m.property q negated
  | .nested negated s => do
    m.negated negated (m.folded (← s.ranges m))

/-- The characters of a set. -/
def SetExpr.ranges (m : Mode) : SetExpr → Except PatternError Ranges
  | .union items => do
    return .ofBounds (← SetItem.boundsOfAll m items)
  | .operation o left right => do
    let l ← left.ranges m
    let r ← right.ranges m
    return o.apply (m.folded l) (m.folded r)

/-- The ranges of some parts of a set. -/
def SetItem.boundsOfAll (m : Mode) : List SetItem → Except PatternError (List (Nat × Nat))
  | [] => .ok []
  | i :: items => do
    let r ← i.ranges m
    return r.bounds.toList ++ (← SetItem.boundsOfAll m items)

end

/-! ### Patterns -/

/-- The expression of a literal. -/
def Mode.literal (m : Mode) (l : Literal) : Except PatternError Regex :=
  if !m.unicode && l.isByte && 0x80 ≤ l.char.toNat then .error .invalidBytes
  else .ok (.characters (m.folded (.single l.char)))

/-- The expression of the dot. -/
def Mode.dot (m : Mode) : Except PatternError Regex :=
  if !m.unicode then .error .invalidBytes
  else if m.dotAll then .ok (.characters Ranges.none.complement)
  else if m.pairedLines then .ok (.characters (Ranges.ofText "A D").complement)
  else .ok (.characters (Ranges.ofText "A").complement)

/-- The condition of an assertion. -/
def Mode.place (m : Mode) : Assertion → Place
  | .lineStart =>
    if !m.multiLine then .textStart
    else if m.pairedLines then .pairedLineStart
    else .lineStart
  | .lineEnd =>
    if !m.multiLine then .textEnd
    else if m.pairedLines then .pairedLineEnd
    else .lineEnd
  | .textStart => .textStart
  | .textEnd => .textEnd
  | .wordBoundary => .wordBoundary m.unicode
  | .notWordBoundary => .notWordBoundary m.unicode
  | .wordStart => .wordStart m.unicode
  | .wordEnd => .wordEnd m.unicode
  | .wordStartHalf => .wordStartHalf m.unicode
  | .wordEndHalf => .wordEndHalf m.unicode

mutual

/-- The expression of a pattern in a mode, and the mode behind the pattern. -/
def expressionIn (m : Mode) : Pattern → Except PatternError (Regex × Mode)
  | .literal l => do
    return (← m.literal l, m)
  | .dot => do
    return (← m.dot, m)
  | .assertion a => return (.place (m.place a), m)
  | .short c negated => do
    return (.characters (← m.shortClass c negated), m)
  | .property q negated => do
    return (.characters (← m.property q negated), m)
  | .set negated s => do
    return (.characters (← m.negated negated (m.folded (← s.ranges m))), m)
  | .directive flags => return (.empty, flags.foldl Mode.set m)
  | .repetition least most greedy body => do
    let (r, m') ← expressionIn m body
    return (.repetition least most (greedy != m'.swapGreed) r, m')
  | .group flags body => do
    let (r, _) ← expressionIn (flags.foldl Mode.set m) body
    return (r, m)
  | .concat parts => concatIn m parts
  | .alternatives parts => alternativesIn m parts

/-- The expression of patterns one behind the other. -/
def concatIn (m : Mode) : List Pattern → Except PatternError (Regex × Mode)
  | [] => return (.empty, m)
  | p :: parts => do
    let (r, m) ← expressionIn m p
    let (rs, m) ← concatIn m parts
    return (.concat r rs, m)

/-- The expression of patterns of which one matches. -/
def alternativesIn (m : Mode) : List Pattern → Except PatternError (Regex × Mode)
  | [] => return (.empty, m)
  | [p] => expressionIn m p
  | p :: parts => do
    let (r, m) ← expressionIn m p
    let (rs, m) ← alternativesIn m parts
    return (.alternative r rs, m)

end

end Regex

/-- The regular expression of a pattern. -/
def Regex.ofPattern (p : Regex.Pattern) : Except Regex.PatternError Regex := do
  let (r, _) ← Regex.expressionIn .initial p
  if Regex.sizeLimit < r.weight then throw .size
  return r

end FieldFormula
