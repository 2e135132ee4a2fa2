import Questionnaire.Decimal.Reading
import Questionnaire.Text.Split
import Questionnaire.Yaml.Token

/-!
# Nodes

The tree of a document: scalars with the kind of value they stand for, sequences and
mappings. The kind of a plain scalar follows from its text; others are texts unless a tag
says so. Aliases are replaced by the nodes they name. A document holds one tree.
-/

namespace Questionnaire.Yaml

/-- What a scalar stands for. `merge` and `default` have a meaning as keys only; `unknown`
is a scalar with a tag that is not among these kinds. Bytes (`!!binary`) are not modelled
and count as `unknown`. -/
inductive Kind where
  | null
  | bool
  | int
  | float
  | timestamp
  | text
  | merge
  | default
  | unknown
  deriving DecidableEq, Repr

/-- A node; `unknown` is a collection with a tag other than that of sequences and mappings.
Sets, ordered maps and lists of pairs (`!!set`, `!!omap`, `!!pairs`) are not modelled: they
count as `unknown`, and so as unreadable. -/
inductive Node where
  | scalar (kind : Kind) (text : String)
  | sequence (items : List Node)
  | mapping (pairs : List (Node × Node))
  | unknown
  deriving Inhabited

namespace Kind

/-- The characters from `0` to a highest digit, and underscores. -/
def isNumeral (highest : Char) (c : Char) : Bool := ('0' ≤ c && c ≤ highest) || c = '_'

/-- Groups of one or two digits below 60, each behind a colon. -/
def isSexagesimal (text : List Char) : Bool :=
  let groups := Text.splitOn [':'] text
  2 ≤ groups.length && (groups.drop 1).all fun group =>
    match group with
    | [a] => Text.isDigit a
    | [a, b] => '0' ≤ a && a ≤ '5' && Text.isDigit b
    | _ => false

def isDigits (text : List Char) : Bool :=
  match text with
  | [] => false
  | c :: rest => Text.isDigit c && rest.all (isNumeral '9')

/-- Does the text, without a sign, denote a whole number? -/
def isWhole (text : List Char) : Bool :=
  match text with
  | ['0'] => true
  | '0' :: 'b' :: rest => !rest.isEmpty && rest.all (isNumeral '1')
  | '0' :: 'x' :: rest =>
    !rest.isEmpty && rest.all fun c => c = '_' || (Json.hexValue? c).isSome
  | '0' :: rest => rest.all (isNumeral '7')
  | c :: rest =>
      '1' ≤ c && c ≤ '9'
        && (rest.all (isNumeral '9')
          || (isSexagesimal text && (Text.splitOn [':'] text).head?.any isDigits))
  | [] => false

/-- `e` with a sign and digits behind it, or nothing. -/
def isPower (text : List Char) : Bool :=
  match text with
  | [] => true
  | e :: sign :: digits =>
      (e = 'e' || e = 'E') && (sign = '+' || sign = '-') && !digits.isEmpty &&
      digits.all Text.isDigit
  | _ => false

/-- Does the text, with its sign, denote a floating-point number? -/
def isReal (text : List Char) : Bool :=
  let bare := (Decimal.takeSign text).2
  let (whole, rest) := bare.span (isNumeral '9')
  let signed := text.length ≠ bare.length
  match rest with
  | '.' :: rest =>
      let (fraction, power) := rest.span (isNumeral '9')
      if whole.isEmpty then
        if ["inf".toList, "Inf".toList, "INF".toList].contains rest then true
        else if ["nan".toList, "NaN".toList, "NAN".toList].contains rest then !signed
        else !signed && isDigits fraction && isPower power
      else isDigits whole && isPower power
  | ':' :: _ =>
      (match (Text.splitOn ['.'] bare) with
        | [groups, fraction] =>
            isDigits whole && isSexagesimal groups && fraction.all (isNumeral '9')
        | _ => false)
  | _ => false

/-- The parts of a timestamp. Hour, minute and second are given together or not at all. -/
structure Stamp where
  year : Nat
  month : Nat
  day : Nat
  time : Option (Nat × Nat × Nat) := none
  fraction : List Char := []
  offset : Option Int := none

def shortNumber? (text : List Char) : Option (Nat × List Char) :=
  match text with
  | a :: b :: rest =>
      if Text.isDigit a then
        if Text.isDigit b then some (Text.digitsValue [a, b], rest)
          else some (Text.digitsValue [a], b :: rest)
      else none
  | [a] => if Text.isDigit a then some (Text.digitsValue [a], []) else none
  | [] => none

def digits? (count : Nat) (text : List Char) : Option (Nat × List Char) :=
  let digits := text.take count
  if digits.length = count && digits.all Text.isDigit then some (Text.digitsValue digits,
    text.drop count)
  else none

def expect? (c : Char) : List Char → Option (List Char)
  | d :: rest => if c = d then some rest else none
  | [] => none

/-- The distance from universal time at the end of a timestamp, in minutes. -/
def zone? (text : List Char) : Option (Option Int) :=
  match text.dropWhile fun c => c = ' ' || c = '\t' with
  | [] => if text.isEmpty then some none else none
  | ['Z'] => some (some 0)
  | sign :: rest => do
      if sign ≠ '+' && sign ≠ '-' then none
      else
        let (hours, rest) ← shortNumber? rest
        let minutes ← match rest with
          | [] => some 0
          | _ => do
              let (minutes, rest) ← digits? 2 (← expect? ':' rest)
              if rest.isEmpty then some minutes else none
        let distance : Int := hours * 60 + minutes
        return some (if sign = '-' then -distance else distance)

/-- The time of day of a timestamp and what follows it. -/
def time? (stamp : Stamp) (text : List Char) : Option Stamp := do
  let (hour, rest) ← shortNumber? text
  let (minute, rest) ← digits? 2 (← expect? ':' rest)
  let (second, rest) ← digits? 2 (← expect? ':' rest)
  let (fraction, rest) := match rest with
    | '.' :: rest => rest.span Text.isDigit
    | rest => ([], rest)
  let offset ← zone? rest
  return { stamp with time := some (hour, minute, second), fraction, offset }

/-- The parts of a timestamp. A date alone has two digits for month and day. -/
def stamp? (text : List Char) : Option Stamp := do
  let (year, rest) ← digits? 4 text
  let rest ← expect? '-' rest
  let (month, afterMonth) ← shortNumber? rest
  let (day, afterDay) ← shortNumber? (← expect? '-' afterMonth)
  let stamp : Stamp := { year := year, month := month, day := day }
  match afterDay with
  | [] => if text.length = 10 then some stamp else none
  | c :: rest =>
      if c = 'T' || c = 't' then time? stamp rest
      else if c = ' ' || c = '\t' then time? stamp (rest.dropWhile fun c =>
        c = ' ' || c = '\t')
      else none

def boolNames : List (String × Bool) :=
  [("yes", true), ("Yes", true), ("YES", true), ("no", false), ("No", false), ("NO", false),
    ("true", true),
    ("True", true), ("TRUE", true), ("false", false), ("False", false), ("FALSE", false),
    ("on", true),
    ("On", true), ("ON", true), ("off", false), ("Off", false), ("OFF", false)]

def ofPlain (s : String) : Kind :=
  let text := s.toList
  if boolNames.any fun (name, _) => name == s then .bool
  else if ["", "~", "null", "Null", "NULL"].contains s then .null
  else if s == "<<" then .merge
  else if s == "=" then .default
  else if isReal text then .float
  else if isWhole (Decimal.takeSign text).2 then .int
  else if (stamp? text).isSome then .timestamp
  else .text

def ofTag (tag : String) : Kind :=
  match [("null", Kind.null), ("bool", .bool), ("int", .int), ("float", .float),
    ("timestamp", .timestamp),
      ("str", .text)].find? fun (name, _) => "tag:yaml.org,2002:" ++ name == tag with
  | some (_, kind) => kind
  | none => .unknown

end Kind

/-- What has been read of a document: the tokens to come, and the nodes that have a name. A
name whose node is not complete has none yet. -/
structure Reader where
  tokens : List Token
  named : Table String (Option Node) := []

abbrev Reading (α : Type) : Type := Reader → Option (α × Reader)

namespace Reader

def peek (r : Reader) : Option Token := r.tokens.head?

def drop (r : Reader) : Reader := { r with tokens := r.tokens.tail }

/-- Is one of the tokens next? The end of the document counts if `none` is among them. -/
def isNext (r : Reader) (tokens : List (Option Token)) : Bool := tokens.contains r.peek

/-- Go on behind a token that has to be next. -/
def expect (t : Token) (r : Reader) : Option Reader :=
  if r.peek = some t then some r.drop else none

end Reader

namespace Node

def empty : Node := .scalar .null ""

/-- A tag with its handle written out. Other handles have no meaning. -/
def resolveTag : Option String → String → Option String
  | none, suffix => some suffix
  | some "!", suffix => some ("!" ++ suffix)
  | some "!!", suffix => some ("tag:yaml.org,2002:" ++ suffix)
  | some _, _ => none

/-- The properties before a node: a name and a tag, in either order. -/
def readProperties (r : Reader) : Option (Option String × Option String × Reader) :=
  match r.peek, r.drop.peek with
  | some (.anchor name), some (.tag handle suffix) =>
      (resolveTag handle suffix).map fun tag => (some name, some tag, r.drop.drop)
  | some (.tag handle suffix), some (.anchor name) =>
      (resolveTag handle suffix).map fun tag => (some name, some tag, r.drop.drop)
  | some (.anchor name), _ => some (some name, none, r.drop)
  | some (.tag handle suffix), _ =>
    (resolveTag handle suffix).map fun tag => (none, some tag, r.drop)
  | _, _ => some (none, none, r)

def ofScalar (tag : Option String) (plain : Bool) (text : String) : Node :=
  match tag with
  | none => .scalar (if plain then .ofPlain text else .text) text
  | some "!" => .scalar (.ofPlain text) text
  | some tag => .scalar (.ofTag tag) text

/-- A collection with its tag, which has to be that of such collections if there is one. -/
def collection (name : String) (tag : Option String) (node : Node) : Node :=
  match tag with
  | none => node
  | some "!" => node
  | some tag => if tag == "tag:yaml.org,2002:" ++ name then node else .unknown

/-- Where a node stands: inside brackets, in a block, or behind a key, where a sequence
needs no indentation. -/
inductive Place where
  | flow
  | block
  | behindKey
  deriving DecidableEq

/-- Give a name to a node that begins here. A name is given once. -/
def announce (name : Option String) (r : Reader) : Option Reader :=
  match name with
  | none => some r
  | some name =>
    if Table.contains r.named name then none
      else some { r with named := Table.put r.named name none }

def complete (name : Option String) (node : Node) (r : Reader) : Node × Reader :=
  match name with
  | none => (node, r)
  | some name => (node, { r with named := Table.put r.named name (some node) })

mutual

def read : Nat → Place → Reading Node
  | 0, _, _ => none
  | fuel + 1, place, r =>
      match r.peek with
      | some (.alias name) =>
          (match Table.get? r.named name with
            | some (some node) => some (node, r.drop)
            | _ => none)
      | _ => do
          let (name, tag, r) ← readProperties r
          let r ← announce name r
          let (node, r) ← readContent fuel place (name.isSome || tag.isSome) tag r
          return complete name node r

def readContent : Nat → Place → Bool → Option String → Reading Node
  | 0, _, _, _, _ => none
  | fuel + 1, place, hasProperties, tag, r =>
      match r.peek with
      | some (.scalar plain text) => some (ofScalar tag plain text, r.drop)
      | some .flowSequenceStart => do
          let (items, r) ← readFlowItems fuel true r.drop
          return (collection "seq" tag (.sequence items), r)
      | some .flowMappingStart => do
          let (pairs, r) ← readFlowPairs fuel true r.drop
          return (collection "map" tag (.mapping pairs), r)
      | t =>
          if t = some .blockEntry && place = .behindKey then do
            let (items, r) ← readItems fuel [some .blockEntry, some .key, some .value,
              some .blockEnd] r
            return (collection "seq" tag (.sequence items), r)
          else if t = some .blockSequenceStart && place ≠ .flow then do
            let (items, r) ← readItems fuel [some .blockEntry, some .blockEnd] r.drop
            return (collection "seq" tag (.sequence items), ← r.expect .blockEnd)
          else if t = some .blockMappingStart && place ≠ .flow then do
            let (pairs, r) ← readPairs fuel r.drop
            return (collection "map" tag (.mapping pairs), r)
          else if hasProperties then some (ofScalar tag true "", r)
          else none

/-- A node, or nothing before one of the tokens. -/
def readOptional : Nat → Place → List (Option Token) → Reading Node
  | 0, _, _, _ => none
  | fuel + 1, place, ends, r => if r.isNext ends then some (empty, r) else read fuel place r

/-- The entries of a block sequence. An entry is empty before one of the tokens. -/
def readItems : Nat → List (Option Token) → Reading (List Node)
  | 0, _, _ => none
  | fuel + 1, ends, r =>
      if r.isNext [some .blockEntry] then do
        let (item, r) ← readOptional fuel .block ends r.drop
        let (items, r) ← readItems fuel ends r
        return (item :: items, r)
      else some ([], r)

def readBehind : Nat → Place → List (Option Token) → Reading Node
  | 0, _, _, _ => none
  | fuel + 1, place, ends, r =>
      if r.isNext [some .value] then readOptional fuel place ends r.drop
        else some (empty, r)

/-- The pairs of a block mapping, and its end. -/
def readPairs : Nat → Reading (List (Node × Node))
  | 0, _ => none
  | fuel + 1, r => do
      let ends := [some Token.key, some .value, some .blockEnd]
      if r.isNext [some .key] then
        let (key, r) ← readOptional fuel .behindKey ends r.drop
        let (value, r) ← readBehind fuel .behindKey ends r
        let (pairs, r) ← readPairs fuel r
        return ((key, value) :: pairs, r)
      else return ([], ← r.expect .blockEnd)

/-- The entries of a sequence in brackets, and its end. A pair is an entry of its own. -/
def readFlowItems : Nat → Bool → Reading (List Node)
  | 0, _, _ => none
  | fuel + 1, first, r => do
      if r.isNext [some .flowSequenceEnd] then return ([], r.drop)
      else
        let r ← if first then some r else r.expect .flowEntry
        if r.isNext [some .flowSequenceEnd] then return ([], r.drop)
        else if r.isNext [some .key] then
          let (key, r) ← readOptional fuel .flow [some .value, some .flowEntry,
            some .flowSequenceEnd] r.drop
          let (value, r) ← readBehind fuel .flow [some .flowEntry, some .flowSequenceEnd] r
          let (items, r) ← readFlowItems fuel false r
          return (.mapping [(key, value)] :: items, r)
        else
          let (item, r) ← read fuel .flow r
          let (items, r) ← readFlowItems fuel false r
          return (item :: items, r)

/-- The pairs of a mapping in brackets, and its end. A node without a colon is a key without
a value. -/
def readFlowPairs : Nat → Bool → Reading (List (Node × Node))
  | 0, _, _ => none
  | fuel + 1, first, r => do
      if r.isNext [some .flowMappingEnd] then return ([], r.drop)
      else
        let r ← if first then some r else r.expect .flowEntry
        if r.isNext [some .flowMappingEnd] then return ([], r.drop)
        else if r.isNext [some .key] then
          let (key, r) ← readOptional fuel .flow [some .value, some .flowEntry,
            some .flowMappingEnd] r.drop
          let (value, r) ← readBehind fuel .flow [some .flowEntry, some .flowMappingEnd] r
          let (pairs, r) ← readFlowPairs fuel false r
          return ((key, value) :: pairs, r)
        else
          let (key, r) ← read fuel .flow r
          let (pairs, r) ← readFlowPairs fuel false r
          return ((key, empty) :: pairs, r)

end

/-- Directives before a document: at most one version, which has to be 1. -/
def readDirectives : List Token → Bool → Option (List Token)
  | .directive name argument :: rest, versioned =>
      if name == "YAML" then
        if versioned || !(argument.startsWith "1.") then none else readDirectives rest true
      else readDirectives rest versioned
  | tokens, _ => some tokens

def dropDocumentEnds : List Token → List Token
  | .documentEnd :: rest => dropDocumentEnds rest
  | tokens => tokens

def readExplicit (fuel : Nat) (tokens : List Token) : Option (Node × List Token) :=
  let r : Reader := { tokens := tokens }
  let isEmpty := match r.peek with
    | none => true
    | some .documentStart => true
    | some .documentEnd => true
    | some (.directive _ _) => true
    | _ => false
  if isEmpty then some (empty, tokens) else (read fuel .block r).map fun (node, r) =>
    (node, r.tokens)

/-- The node of the tokens of one document; `none` inside if there is no document. -/
def ofTokens? (tokens : List Token) : Option (Option Node) :=
  let fuel := 4 * tokens.length + 8
  let isExplicit := match tokens with
    | [] => true
    | .documentStart :: _ => true
    | .directive _ _ :: _ => true
    | _ => false
  let finish (node : Node) (rest : List Token) : Option (Option Node) :=
    if (dropDocumentEnds rest).isEmpty then some (some node) else none
  if isExplicit then
    match dropDocumentEnds tokens with
    | [] => some none
    | tokens => do
        match ← readDirectives tokens false with
        | .documentStart :: tokens =>
            let (node, rest) ← readExplicit fuel tokens
            finish node rest
        | _ => none
  else do
    let (node, r) ← read fuel .block { tokens := tokens }
    finish node r.tokens

end Node

end Questionnaire.Yaml
