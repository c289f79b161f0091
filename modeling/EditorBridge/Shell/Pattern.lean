import EditorBridge.Shell.Raw

/-!
# Patterns

What `case`, trims and file names are matched against: `*` stands for any text, `?` for any
character, and brackets for one character of a set, which may be given by ranges and by classes. A
backslash makes the character behind it stand for itself; quoted characters that mean something in a
pattern are spelled that way.
-/

namespace EditorBridge.Shell

/-- The classes of characters that sets can name. -/
inductive CharClass where
  | alnum | alpha | blank | cntrl | digit | graph | lower | print | punct | space | upper | xdigit
  deriving DecidableEq, Repr

namespace CharClass

/-- Every class with its name. -/
def names : List (String × CharClass) :=
  [("alnum", .alnum), ("alpha", .alpha), ("blank", .blank), ("cntrl", .cntrl), ("digit", .digit),
    ("graph", .graph), ("lower", .lower), ("print", .print), ("punct", .punct), ("space", .space),
    ("upper", .upper), ("xdigit", .xdigit)]

/-- A small letter. -/
def isLower (c : Char) : Bool := 'a' ≤ c && c ≤ 'z'

/-- A capital letter. -/
def isUpper (c : Char) : Bool := 'A' ≤ c && c ≤ 'Z'

/-- A character that leaves a mark on paper. -/
def isGraph (c : Char) : Bool := '!' ≤ c && c ≤ '~'

/-- The character belongs to the class; only the characters of ASCII belong to classes. -/
def holds (found : CharClass) (c : Char) : Bool :=
  let isAlnum := isLower c || isUpper c || Decimal.isDigit c
  match found with
  | .alnum => isAlnum
  | .alpha => isLower c || isUpper c
  | .blank => c == ' ' || c == '\t'
  | .cntrl => c < ' ' || c == '\x7F'
  | .digit => Decimal.isDigit c
  | .graph => isGraph c
  | .lower => isLower c
  | .print => isGraph c || c == ' '
  | .punct => isGraph c && !isAlnum
  | .space => Raw.isBlank c
  | .upper => isUpper c
  | .xdigit => Decimal.isDigit c || ('a' ≤ c && c ≤ 'f') || ('A' ≤ c && c ≤ 'F')

end CharClass

/-- A part of a set. -/
inductive Member where
  | range (low high : Char)
  | named (found : CharClass)
  deriving DecidableEq, Repr

/-- A part of a pattern. -/
inductive Mark where
  | char (c : Char)
  | anyText
  | anyChar
  /-- One character inside, or outside when `negated`, the set. -/
  | set (negated : Bool) (members : List Member)
  deriving DecidableEq, Repr

/-- A pattern. -/
abbrev Pattern := List Mark

namespace Pattern

/-- A quoted character would mean something in a pattern. -/
def isMeaningful (c : Char) : Bool := "!*?[]=~:/-\\".contains c

/-- The spelling of a character in a pattern. -/
def spell (quoted : Bool) (c : Char) : Raw := if quoted && isMeaningful c then ['\\', c] else [c]

/-- The class behind an opening bracket, and what follows it. -/
def class? (source : Raw) : Option (CharClass × Raw) :=
  CharClass.names.findSome? fun (name, found) =>
    let spelled := (":" ++ name ++ ":]").toList
    if spelled.isPrefixOf source then some (found, source.drop spelled.length) else none

/-- The character that stands at the start of a set member, and what follows it. -/
def memberChar? : Raw → Option (Char × Raw)
  | [] | ['\\'] => none
  | '\\' :: c :: rest | c :: rest => some (c, rest)

/-- Reads the members of a set up to the closing bracket, which does not count when it comes first.
The fuel is more than the length of the text. -/
def members? (first : Bool) : Nat → Raw → Option (List Member × Raw)
  | 0, _ => none
  | fuel + 1, source =>
    let behind (member : Member) (rest : Raw) : Option (List Member × Raw) :=
      (members? false fuel rest).map fun (members, rest) => (member :: members, rest)
    match if source.head? == some '[' then class? (source.drop 1) else none with
    | some (found, rest) => behind (.named found) rest
    | none =>
      if !first && source.head? == some ']' then some ([], source.drop 1)
      else match memberChar? source with
        | none => none
        | some (low, '-' :: rest) =>
          if rest.head? == some ']' then behind (.range low low) ('-' :: rest)
          else match memberChar? rest with
            | none => none
            | some (high, rest) => behind (.range low high) rest
        | some (c, rest) => behind (.range c c) rest

/-- The set behind an opening bracket, if it is closed. -/
def set? (source : Raw) : Option (Mark × Raw) :=
  let (negated, body) := match source with
    | '!' :: body => (true, body)
    | body => (false, body)
  (members? true (body.length + 1) body).map fun (members, rest) => (.set negated members, rest)

/-- The pattern that a text spells. The fuel is the length of the text. -/
def read : Nat → Raw → Pattern
  | 0, _ | _, [] => []
  | fuel + 1, '*' :: rest => .anyText :: read fuel rest
  | fuel + 1, '?' :: rest => .anyChar :: read fuel rest
  | fuel + 1, '\\' :: c :: rest => .char c :: read fuel rest
  | fuel + 1, '[' :: rest =>
    match set? rest with
    | some (mark, rest) => mark :: read fuel rest
    | none => .char '[' :: read fuel rest
  | fuel + 1, c :: rest => .char c :: read fuel rest

/-- The pattern that a text spells. -/
def ofSpelling (source : Raw) : Pattern := read source.length source

/-- The place of a character in the order of ranges, in which the bytes beyond ASCII come first. -/
def rank (c : Char) : Nat := (c.toNat + 128) % 256

/-- The character belongs to the member. -/
def Member.holds (member : Member) (c : Char) : Bool :=
  match member with
  | .range low high => rank low ≤ rank c && rank c ≤ rank high
  | .named found => found.holds c

/-- The mark can stand for the character. -/
def fits (mark : Mark) (c : Char) : Bool :=
  match mark with
  | .char d => c == d
  | .anyText | .anyChar => true
  | .set negated members => members.any (Member.holds · c) != negated

/-- The pattern stands for the whole text. -/
def accepts : Pattern → Raw → Bool
  | [], text => text.isEmpty
  | .anyText :: marks, [] => accepts marks []
  | .anyText :: marks, c :: text => accepts marks (c :: text) || accepts (.anyText :: marks) text
  | _ :: _, [] => false
  | mark :: marks, c :: text => fits mark c && accepts marks text
termination_by pattern text => (text.length, pattern.length)

end Pattern

end EditorBridge.Shell
