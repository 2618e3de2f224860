import AccessDirectory.Http.Variable

/-! Patterns of paths. Between slashes stand fixed texts and, in angle brackets, variables; a variable
may say before a colon of what kind it is. -/

namespace AccessDirectory.Http
open Text

inductive Piece
  | fixed (text : List Char)
  | gap (v : Variable)
deriving DecidableEq, Repr

abbrev Segment := List Piece

abbrev Pattern := List Segment

inductive Trial
  | fits (values : List String)
  | misses
  /-- Something in the pattern cannot be matched against any text. -/
  | breaks
deriving DecidableEq, Repr

def Trial.andThen (first : Trial) (second : Unit → Trial) : Trial :=
  match first with
  | fits values =>
    match second () with
    | fits more => fits (values ++ more)
    | ended => ended
  | ended => ended

namespace Segment

def isFixed (s : Segment) : Bool := s.all fun
  | .fixed _ => true
  | .gap _ => false

def spans (s : Segment) : Bool := s.any fun
  | .fixed _ => false
  | .gap v => v.kind = .path

def gaps (s : Segment) : List Variable := s.filterMap fun
  | .fixed _ => none
  | .gap v => some v

def isBroken (s : Segment) : Bool := s.gaps.any (·.kind.isBroken)

def match? : Segment → List Char → Option (List String)
  | [], cs => if cs.isEmpty then some [] else none
  | .fixed text :: rest, cs => (text.isPrefixOf? cs).bind (match? rest)
  | .gap v :: rest, cs =>
    (v.kind.lengths cs).findSome? fun n =>
      (match? rest (cs.drop n)).map (String.ofList (cs.take n) :: ·)

/-- Values in the order of their numbers as texts: the eleventh comes after the second. -/
def arranged (values : List String) : List String :=
  ((List.range values.length).mergeSort fun a b => decide (toString a ≤ toString b)).filterMap
    (values[·]?)

def trial (s : Segment) (cs : List Char) : Trial :=
  if s.isBroken then .breaks
  else match s.match? cs with
    | some values => .fits (arranged values)
    | none => .misses

end Segment

namespace Pattern

def isNameStart (c : Char) : Bool := c.isAlpha || c = '_'

def isNameChar (c : Char) : Bool := c.isAlphanum || c = '_'

def readName? (cs : List Char) : Option (String × List Char) :=
  match cs with
  | c :: _ =>
    if isNameStart c then some (String.ofList (cs.takeWhile isNameChar), cs.dropWhile isNameChar)
    else none
  | [] => none

def closeName? (cs : List Char) : Option (String × List Char) :=
  match readName? cs with
  | some (name, '>' :: rest) => some (name, rest)
  | _ => none

def readArguments? (arguments : List Char) : List Char →
    Option (List Char × String × List Char)
  | [] => none
  | c :: rest =>
    let closed := match c, rest with
      | ')', ':' :: more => closeName? more
      | _, _ => none
    match closed with
    | some (name, after) => some (arguments, name, after)
    | none => if c = '\n' then none else readArguments? (arguments ++ [c]) rest

def readVariable? (cs : List Char) : Option (Option String × List Char × String × List Char) :=
  match readName? cs with
  | some (name, '>' :: rest) => some (none, [], name, rest)
  | some (kind, ':' :: rest) => (closeName? rest).map fun (name, rest) => (some kind, [], name, rest)
  | some (kind, '(' :: rest) =>
    (readArguments? [] rest).map fun (arguments, name, rest) => (some kind, arguments, name, rest)
  | _ => none

def defaultKind : String := "default"

/-- The pattern of a text; `segment` holds the pieces since the last slash. The fuel bounds the number of
steps, each of which passes a character. -/
def readFrom : (fuel : Nat) → (segment : Segment) → List Char → Except PatternFault Pattern
  | _, segment, [] => .ok [segment]
  | 0, _, _ => .error .malformed
  | fuel + 1, segment, '/' :: rest => do return segment :: (← readFrom fuel [] rest)
  | fuel + 1, segment, '<' :: rest =>
    match readVariable? rest with
    | none => .error .malformed
    | some (kind, arguments, name, rest) => do
      let arguments ← Argument.readList arguments
      let kind ← VariableKind.ofName (kind.getD defaultKind) arguments
      readFrom fuel (segment ++ [.gap { name, kind }]) rest
  | fuel + 1, segment, cs =>
    let text := cs.takeWhile fun c => c ≠ '<' && c ≠ '/'
    readFrom fuel (segment ++ [.fixed text]) (cs.drop text.length)

def read (cs : List Char) : Except PatternFault Pattern := readFrom cs.length [] cs

def gaps (p : Pattern) : List Variable := p.flatMap Segment.gaps

def names (p : Pattern) : List String := p.gaps.map (·.name)

def joined (p : Pattern) : Segment := List.intercalate [.fixed ['/']] p

/-- The values of the variables in a path. From a segment on that may match slashes, the path is matched as
one text. -/
def trial : Pattern → List (List Char) → Trial
  | [], [] => .fits []
  | s :: rest, part :: path =>
    if s.spans then (joined (s :: rest)).trial (List.intercalate ['/'] (part :: path))
    else (s.trial part).andThen fun _ => trial rest path
  | _, _ => .misses

def reservedNames : List String := ["None", "True", "False"]

def repeated? : List String → List String → Option String
  | _, [] => none
  | before, name :: rest =>
    if before.contains name then some name else repeated? (name :: before) rest

def checkNames (names : List String) : Except PatternFault Unit :=
  match names.find? reservedNames.contains, repeated? [] names with
  | some name, _ => .error (.reservedName name)
  | none, some name => .error (.repeatedName name)
  | none, none => .ok ()

end Pattern

end AccessDirectory.Http
