import RollingUpgrade.Log.Settings
import RollingUpgrade.Text.Alphanumeric
import RollingUpgrade.Text.Separator
import RollingUpgrade.Text.Utf8

namespace RollingUpgrade.Log

-- Wants the events of a level and graver ones. Most of a directive, which is written as
-- `target[span{field=value}]=level`, may be missing.
structure Directive where
  -- How the name of the part starts.
  target : Option String
  span : Option String
  fields : List (String × Option String)
  level : Level
  deriving DecidableEq, Repr

namespace Directive

-- The number of a level, most verbose last.
def levelOfNumber? : Nat → Option Level
  | 0 => some .off
  | 1 => some .error
  | 2 => some .warn
  | 3 => some .info
  | 4 => some .debug
  | 5 => some .trace
  | _ => none

def number? (s : List Char) : Option Nat :=
  let digits := if s.head? == some '+' then s.tail else s
  if digits.isEmpty || !digits.all Char.isDigit then none
  else some (digits.foldl (fun n c => n * 10 + (c.toNat - '0'.toNat)) 0)

def level? (s : List Char) : Option Level :=
  (Level.ofExactName? (Text.lowerLatin (.ofList s))).or ((number? s).bind levelOfNumber?)

def startsName (c : Char) : Bool := "-:_".toList.contains c || Text.isAlphanumeric c

-- How far a directive has been read. Parts that are being read are given by the place of their
-- first byte.
inductive Stage
  | start
  | name
  | span (first : Nat)
  | field (first : Nat)
  | fieldsDone
  | targetDone
  | level (first : Nat)

structure Draft where
  stage : Stage
  target : Option String
  span : Option String
  fields : List (String × Option String)

-- The part of a text between two places, in bytes.
def piece (whole : List Char) (first last : Nat) : List Char :=
  Text.Utf8.takeBytes (last - first) (Text.Utf8.dropBytes first whole)

def fieldOf (s : List Char) : String × Option String :=
  match Text.splitFirst? '=' s with
  | some (name, value) => (.ofList name, some (.ofList (Text.beforeFirst '=' value)))
  | none => (.ofList s, none)

def Draft.next (whole : List Char) (d : Draft) (place : Nat) (c : Char) : Option Draft :=
  match d.stage with
  | .start =>
    if c == '[' then some { d with stage := .span (place + 1) }
    else if startsName c then some { d with stage := .name }
    else none
  | .name =>
    let target := some (String.ofList (piece whole 0 place))
    if c == '=' then some { d with stage := .level (place + 1), target }
    else if c == '[' then some { d with stage := .span (place + 1), target }
    else some d
  | .span first =>
    let span := piece whole first place
    if c == ']' then some { d with stage := .targetDone, span := some (.ofList span) }
    else if c == '\x7b' then
      let span := if span.isEmpty then none else some (String.ofList span)
      some { d with stage := .field (place + 1), span }
    else some d
  | .field first =>
    if c == '\x7d' then
      match piece whole first place with
      | [] => none
      | field => some { d with stage := .fieldsDone, fields := d.fields ++ [fieldOf field] }
    else some d
  | .fieldsDone => if c == ']' then some { d with stage := .targetDone } else none
  | .targetDone => if c == '=' then some { d with stage := .level (place + 1) } else none
  | .level _ => some d

def Draft.read (whole : List Char) (d : Draft) (place : Nat) : List Char → Option Draft
  | [] => some d
  | c :: rest => do (← d.next whole place c).read whole (place + c.utf8Size) rest

-- The directive of a draft at the end of its text. Without a level all events are wanted; a name
-- that is a level is no target.
def Draft.finish (whole : List Char) (d : Draft) : Option Directive :=
  match d.stage with
  | .name =>
    match level? whole with
    | some level => some ⟨none, d.span, d.fields, level⟩
    | none => some ⟨some (.ofList whole), d.span, d.fields, .trace⟩
  | .targetDone => some ⟨d.target, d.span, d.fields, .trace⟩
  | .level first =>
    match Text.Utf8.dropBytes first whole with
    | [] => some ⟨d.target, d.span, d.fields, .trace⟩
    | level => (level? level).map fun level => ⟨d.target, d.span, d.fields, level⟩
  | _ => none

-- Reads a directive. Blanks around it do not count when its parts are told apart; the parts are
-- cut out of the text with these blanks, at the places that they have without.
def parse? (s : List Char) : Option Directive := do
  let draft ← Draft.read s ⟨.start, none, none, []⟩ 0 (Text.trimChars s)
  draft.finish s

-- Reads directives between commas. Empty ones are passed over.
def parseAll? (s : String) : Option (List Directive) :=
  ((Text.splitWhere (· == ',') s.toList).filter (!·.isEmpty)).mapM parse?

-- Whether the event alone decides. There are no spans, and values of fields are not looked at.
def isStatic (d : Directive) : Bool := d.span.isNone && d.fields.all (·.2.isNone)

def covers (d : Directive) (e : Event) : Bool :=
  d.isStatic && d.target.all (·.toList.isPrefixOf e.target.toList) &&
    d.fields.all fun f => f.1 == "message" || e.fields.any (·.1 == f.1)

def targetSize (d : Directive) : Nat := d.target.elim 0 (·.utf8ByteSize + 1)

def namesBefore : List String → List String → Bool
  | _, [] => false
  | [], _ :: _ => true
  | a :: as, b :: bs => decide (a < b) || (a == b && namesBefore as bs)

-- Whether a directive describes events less closely than another: it gives less of the target, or
-- fewer fields. Of directives with as many fields the one whose names come first counts as less
-- close, so that an order is fixed.
def isLooser (a b : Directive) : Bool :=
  decide (a.targetSize < b.targetSize) ||
    (a.targetSize == b.targetSize &&
      (decide (a.fields.length < b.fields.length) ||
        (a.fields.length == b.fields.length &&
          namesBefore (a.fields.map (·.1)) (b.fields.map (·.1)))))

-- The directive that counts for an event: the closest that covers it, and of several that are
-- alike the latest.
def deciding? (directives : List Directive) (e : Event) : Option Directive :=
  (directives.filter (·.covers e)).foldl
    (fun best d =>
      match best with
      | some b => if d.isLooser b then some b else some d
      | none => some d) none

def wants (directives : List Directive) (e : Event) : Bool :=
  match deciding? directives e with
  | some d => decide (d.level ≤ e.level)
  | none => false

def fallback : List Directive := [⟨none, none, [], .error⟩]

end Directive

namespace Settings

-- The directives of the settings; those of the level if they cannot be read.
def activeDirectives (s : Settings) : List Directive :=
  let directives := ((Directive.parseAll? s.filterDirective).or
    (Directive.parseAll? s.levelDirective)).getD []
  if directives.isEmpty then Directive.fallback else directives

def select (s : Settings) (events : List Event) : List Event :=
  events.filter (Directive.wants s.activeDirectives)

end Settings
end RollingUpgrade.Log
