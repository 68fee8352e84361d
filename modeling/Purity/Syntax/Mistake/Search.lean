/-
The search for the line to report. A text is read twice by the rules: once
without the rules for mistakes, and once with them, when it is known to be
wrong. Rules that are met often remember what they gave at a place, and a
rule that starts with itself is applied again to what it gave as long as
it gets further.

A mistake is noted and does not end the search at once: from then on no
rule starts, but a list that has items is complete. A rule that ends in
such a list may still report another place, which then counts. Nested
calls are bounded by a number; between two tokens no rule is entered twice
without having been remembered, so a multiple of the length of the text is
enough.

Consumed by the parser, for texts that the grammar does not accept.
-/
import Purity.Syntax.Mistake.Expression
import Purity.Syntax.Mistake.Parameter
import Purity.Syntax.Mistake.Pattern
import Purity.Syntax.Mistake.Slip
import Purity.Syntax.Mistake.Statement
import Purity.Syntax.StringLiteral
import Std.Data.HashMap

namespace Purity.Mistake

-- ================================================================ rules

namespace Rule

/-- The alternatives of a rule, in the order in which they are tried. -/
def alternatives : Rule → List Alternative
  | expr r => r.alternatives
  | target r => r.alternatives
  | param r => r.alternatives
  | pattern r => r.alternatives
  | stmt r => r.alternatives
  | slip r => r.alternatives

/-- Does the rule start with itself? -/
def growsLeft : Rule → Bool
  | expr .bitOr | expr .bitXor | expr .bitAnd | expr .shift | expr .sum
  | expr .term | expr .primary
  | target .targetPrimary | pattern .dottedMember | stmt .dottedName => true
  | _ => false

/-- Does the rule remember what it gave at a place? -/
def remembers : Rule → Bool
  | expr .expression | expr .starExpression | expr .disjunction
  | expr .conjunction | expr .inversion | expr .factor | expr .awaitPrimary
  | expr .strings | expr .arguments
  | target .starTarget | target .targetWithStarAtom | target .delTarget
  | pattern .closedPattern | pattern .starPattern
  | stmt .simpleStmt | stmt .block
  | slip .badNamedExpression => true
  | _ => false

end Rule

/-- Is it nothing but a rule for mistakes? -/
def isSlip : Alternative → Bool
  | ([.rule (.slip _)], _) => true
  | _ => false

/-- The words that are reserved at some places only. -/
def softWords : List String := ["_", "case", "match"]

-- ============================================================= progress

/-- What is known while a text is searched. -/
structure Progress where
  /-- The number of tokens looked at. -/
  seen : Nat := 0
  /-- The line to report, once a mistake was found. -/
  fault : Option Nat := none
  /-- What rules gave at the places where they were tried. -/
  memory : Std.HashMap (Rule × Nat) (Option (Nat × Match)) := {}

/-- A step of the search. -/
abbrev Search := StateM Progress

/-- What is searched: the tokens, and whether the rules for mistakes apply. -/
structure Scene where
  tokens : Array Token
  diagnosing : Bool

/-- Was a mistake found? -/
def isFaulty : Search Bool := return (← get).fault.isSome

/-- Notes a mistake, in place of any found before. -/
def note (line : Nat) : Search Unit :=
  modify fun p => { p with fault := some line }

/-- The furthest token looked at. -/
def furthest (tokens : Array Token) (seen : Nat) : Option Token :=
  tokens[seen - 1]?

/-- Notes a mistake at the furthest token, unless one was found before. -/
def noteHere (s : Scene) : Search Unit := modify fun p =>
  match p.fault, furthest s.tokens p.seen with
  | none, some t => { p with fault := some t.line }
  | _, _ => p

/-- Looks at a token. A failure of the lexer is a mistake where it is met
first. -/
def look (s : Scene) (place : Nat) : Search (Option Token) := do
  match s.tokens[place]? with
  | none => return none
  | some t =>
      if place < (← get).seen then return some t
      else
        modify fun p => { p with seen := place + 1 }
        match t.kind with
        | .failure reason =>
            note reason.line
            return none
        | _ => return some t

/-- Passes a token that is accepted. -/
def passIf (s : Scene) (place : Nat) (accept : Token → Option Match) :
    Search (Option (Nat × Match)) := do
  match ← look s place with
  | none => return none
  | some t => return (accept t).map (place + 1, ·)

/-- A token of this kind of layout. -/
def layout (t : Token) (isIt : TokenKind → Bool) : Option Match :=
  if isIt t.kind then some (.token t.line "") else none

/-- How the forms of an alternative went. -/
inductive Attempt where
  /-- All were met; the parts come the last first. -/
  | met (place : Nat) (parts : List Match)
  | missed (committed : Bool)

-- ============================================================== strings

/-- Where strings side by side are malformed. -/
inductive StringFault where
  /-- At the furthest token. -/
  | here
  | onLine (line : Nat)

/-- The expressions of a formatted string in the order of its text, each
with the brace before it. -/
def fieldsOf : List StringLiteral.Piece →
    List (StringLiteral.Located × List StringLiteral.Located)
  | [] => []
  | .text _ :: rest => fieldsOf rest
  | .field brace expression _ none :: rest =>
      (brace, expression) :: fieldsOf rest
  | .field brace expression _ (some format) :: rest =>
      (brace, expression) :: (fieldsOf format ++ fieldsOf rest)

/-- Is it a string of bytes? -/
def isBytes (t : Token) : Bool :=
  match t.kind with
  | .string marks .. => marks.any fun c => c = 'b' || c = 'B'
  | _ => false

-- ============================================================ conclusion

/-- The failure that ends the tokens, if one does. -/
def lexFailure (tokens : Array Token) : Option LexFailure :=
  match tokens.back? with
  | some { kind := .failure reason, .. } => some reason
  | _ => none

/-- The line to report once the rest of the text has been looked at, for a
mistake on `line` that was found having looked as far as `seen`. The rest
may hold a failure of the lexer, which takes over when it is decisive, and
so does a bracket that is never closed and was opened before the furthest
token. -/
def afterRest (tokens : Array Token) (seen line : Nat) : Nat :=
  match lexFailure tokens, furthest tokens seen with
  | some reason, some last =>
      if last.kind matches .failure _ then line
      else if reason.decisive then reason.line
      else match reason.openBracket with
        | some opened => if opened < last.line then opened else line
        | none => line
  | _, _ => line

/-- The line to report when no rule says more than that the text is wrong.
The first reading got as far as `first`, the second one as far as `seen`. -/
def plainLine (tokens : Array Token) (first seen : Nat) : Nat :=
  match furthest tokens first, furthest tokens seen with
  | some t, some last =>
      match t.kind with
      | .indent | .dedent => last.line
      | _ => afterRest tokens seen t.line
  | _, _ => 1

-- =============================================================== search

mutual

/-- Meets a form at a place: where it ends and what it matched. -/
def meet (s : Scene) :
    (bound : Nat) → Form → Nat → Search (Option (Nat × Match))
  | 0, _, _ => return none
  | bound + 1, form, place => do
      match form with
      | .lit symbol =>
          passIf s place fun t =>
            if t.symbol == symbol then some (.token t.line symbol) else none
      | .soft word =>
          passIf s place fun t =>
            if t.isSpelled word then some (.token t.line word) else none
      | .softStart => passIf s place fun t => match t.kind with
          | .name spelling _ =>
              if softWords.any (·.startsWith spelling) then
                some (.token t.line "")
              else none
          | _ => none
      | .name => passIf s place fun t => match t.kind with
          | .name _ id => some (.expr (.name t.line id))
          | _ => none
      | .number =>
          match ← look s place with
          | some { kind := .number (some _), line, .. } =>
              return some (place + 1, .expr (.other line))
          | some { kind := .number none, line, .. } =>
              note line
              return none
          | _ => return none
      | .string => passIf s place (layout · (· matches .string ..))
      | .newline => passIf s place (layout · (· matches .newline))
      | .indent => passIf s place (layout · (· matches .indent))
      | .dedent => passIf s place (layout · (· matches .dedent))
      | .endOfText => passIf s place (layout · (· matches .endOfText))
      | .never => passIf s place fun _ => none
      | .rule r => apply s bound r place
      | .opt f =>
          match ← meet s bound f place with
          | some found => return some found
          | none =>
              if ← isFaulty then return none
              else return some (place, .absent)
      | .many f =>
          if ← isFaulty then return none
          let (stop, found) ← gather s bound none f place []
          return some (stop, .items found.reverse)
      | .some f =>
          if ← isFaulty then return none
          let (stop, found) ← gather s bound none f place []
          if found.isEmpty || (← isFaulty) then return none
          return some (stop, .items found.reverse)
      | .sep sign f =>
          if ← isFaulty then return none
          match ← meet s bound f place with
          | none => return none
          | some (next, first) =>
              if ← isFaulty then return none
              let (stop, found) ← gather s bound (some sign) f next [first]
              return some (stop, .items found.reverse)
      | .oneOf alternatives => choose s bound alternatives place
      | .ahead f =>
          return (← meet s bound f place).map fun _ => (place, .absent)
      | .notAhead f =>
          match ← meet s bound f place with
          | some _ => return none
          | none => return some (place, .absent)
      | .commit => return some (place, .absent)
      | .insist symbol =>
          if ← isFaulty then return none
          match ← look s place with
          | none => return none
          | some t =>
              if t.symbol == symbol then
                return some (place + 1, .token t.line symbol)
              note t.line
              return none
termination_by structural bound _ _ => bound

/-- Meets forms one behind the other. -/
def meetAll (s : Scene) :
    (bound : Nat) → List Form → Bool → Nat → List Match → Search Attempt
  | 0, _, _, _, _ => return .missed false
  | _ + 1, [], _, place, parts => return .met place parts
  | bound + 1, form :: forms, committed, place, parts => do
      match ← meet s bound form place with
      | none => return .missed committed
      | some (next, found) =>
          meetAll s bound forms (committed || form matches .commit) next
            (found :: parts)
termination_by structural bound _ _ _ _ => bound

/-- Repeats a form, behind a sign if one is given. What it matched comes the
last first. -/
def gather (s : Scene) :
    (bound : Nat) → Option String → Form → Nat → List Match →
    Search (Nat × List Match)
  | 0, _, _, place, found => return (place, found)
  | bound + 1, sign, form, place, found => do
      let start ← match sign with
        | none => pure (some place)
        | some sign =>
            let passed ← passIf s place fun t =>
              if t.symbol == sign then some .absent else none
            pure (passed.map Prod.fst)
      match start with
      | none => return (place, found)
      | some start =>
          match ← meet s bound form start with
          | none => return (place, found)
          | some (next, m) => gather s bound sign form next (m :: found)
termination_by structural bound _ _ _ _ => bound

/-- Tries alternatives in order. One that is met decides, whatever it
gives. -/
def choose (s : Scene) :
    (bound : Nat) → List Alternative → Nat → Search (Option (Nat × Match))
  | 0, _, _ => return none
  | _ + 1, [], _ => return none
  | bound + 1, alternative :: rest, place => do
      if ← isFaulty then return none
      if isSlip alternative && !s.diagnosing then choose s bound rest place
      else
        match ← meetAll s bound alternative.1 false place [] with
        | .met stop parts =>
            return (← give s bound alternative.2 place stop parts.reverse).map
              (stop, ·)
        | .missed true => return none
        | .missed false => choose s bound rest place
termination_by structural bound _ _ => bound

/-- Applies a rule at a place. -/
def apply (s : Scene) :
    (bound : Nat) → Rule → Nat → Search (Option (Nat × Match))
  | 0, _, _ => return none
  | bound + 1, r, place => do
      if r.growsLeft then
        if (← look s place).isNone then return none
        match (← get).memory[(r, place)]? with
        | some found => return found
        | none => grow s bound r place none
      else if ← isFaulty then return none
      else if r.remembers then
        if (← look s place).isNone then return none
        match (← get).memory[(r, place)]? with
        | some found => return found
        | none =>
            let found ← choose s bound r.alternatives place
            modify fun p =>
              { p with memory := p.memory.insert (r, place) found }
            return found
      else choose s bound r.alternatives place
termination_by structural bound _ _ => bound

/-- Applies a rule that starts with itself to the best it gave so far. -/
def grow (s : Scene) : (bound : Nat) → Rule → Nat → Option (Nat × Match) →
    Search (Option (Nat × Match))
  | 0, _, _, best => return best
  | bound + 1, r, place, best => do
      modify fun p => { p with memory := p.memory.insert (r, place) best }
      let found ← choose s bound r.alternatives place
      if ← isFaulty then return none
      match found with
      | none => return best
      | some (stop, m) =>
          if stop ≤ (best.map Prod.fst).getD place then return best
          else grow s bound r place (some (stop, m))
termination_by structural bound _ _ _ => bound

/-- What an alternative gives that was met from `start` to `stop`. -/
def give (s : Scene) : (bound : Nat) → Yield → (start stop : Nat) →
    List Match → Search (Option Match)
  | 0, _, _, _, _ => return none
  | bound + 1, yield, start, stop, parts => do
      let line := (s.tokens[start]?.map Token.line).getD 0
      let part (i : Nat) : Match := parts.getD i .absent
      let sketches := parts.flatMap Match.sketches
      let node : Match := .expr (.other line)
      match yield with
      | .part i => return some (part i)
      | .single i =>
          match part i with
          | .items [one] => return some one
          | _ => return some node
      | .node => return some node
      | .place => return some (.expr (.place line))
      | .list => return some (.items parts)
      | .display => return some (.expr (.display line sketches))
      | .starred i =>
          match part i with
          | .expr value => return some (.expr (.starred line value))
          | _ => return some node
      | .comparison =>
          let left := match part 0, part 1 with
            | .expr left, .items (.token _ "in" :: _) => some left
            | _, _ => none
          return some (.expr (.comparison line left))
      | .mark => return some (.token line "")
      | .strings =>
          let tokens := (s.tokens.extract start stop).toList
          match stringFault bound none tokens with
          | none => return some node
          | some .here =>
              noteHere s
              return none
          | some (.onLine line) =>
              note line
              return none
      | .real =>
          match s.tokens[start]?.map Token.kind with
          | some (.number (some (.imaginary _))) =>
              note line
              return none
          | _ => return some node
      | .imaginary =>
          match s.tokens[start]?.map Token.kind with
          | some (.number (some (.imaginary _))) => return some node
          | _ =>
              note line
              return none
      | .blame i =>
          note (part i).line
          return none
      | .blameHere =>
          noteHere s
          return none
      | .blameTarget use i =>
          let wrong := (part i).sketches.flatMap (Sketch.wrongTargets use)
          match wrong.head? with
          | some line => note line
          | none => pure ()
          return none
      | .blameOldName i =>
          if (part i).sketches.any Sketch.isOldName then note (part i).line
          return none
      | .blameComma i =>
          let depth := (s.tokens[stop - 1]?.map Token.depth).getD 0
          if depth ≠ 0 && !(part i).sketches.any Sketch.isOldName then
            note (part i).line
          return none
      | .blameLastArgument i =>
          match (part i).sketches with
          | [.display _ (first :: second :: more)] =>
              note ((second :: more).getLastD first).line
          | _ => pure ()
          return none
termination_by structural bound _ _ _ _ => bound

/-- Where the first malformed string of several is. Bytes and texts do not
stand side by side, which `bytes` remembers of the strings before. -/
def stringFault :
    (bound : Nat) → (bytes : Option Bool) → List Token → Option StringFault
  | 0, _, _ => none
  | _ + 1, _, [] => none
  | bound + 1, bytes, t :: rest =>
      match t.kind with
      | .string marks body column =>
          let raw := marks.any fun c => c = 'r' || c = 'R'
          let formatted := marks.any fun c => c = 'f' || c = 'F'
          let mixed := bytes.any (· ≠ isBytes t)
          if isBytes t then
            if body.any fun c => c.toNat ≥ 128 then some (.onLine t.line)
            else if (StringLiteral.bytesOf raw body).isNone || mixed then
              some .here
            else stringFault bound (some true) rest
          else if formatted then
            let cut := StringLiteral.formatCut raw t.line column body
            if mixed then some .here
            else match fieldFault bound (fieldsOf cut.pieces) with
              | some line => some (.onLine line)
              | none =>
                  if cut.sound then stringFault bound (some false) rest
                  else some .here
          else if (StringLiteral.textOf raw body).isNone || mixed then
            some .here
          else stringFault bound (some false) rest
      | _ => none
termination_by structural bound _ _ => bound

/-- The line of the first mistake in the expressions of a formatted string. -/
def fieldFault : (bound : Nat) →
    List (StringLiteral.Located × List StringLiteral.Located) → Option Nat
  | 0, _ => none
  | _ + 1, [] => none
  | bound + 1, (brace, expression) :: rest =>
      let tokens := StringLiteral.fieldTokens brace expression
      match faultLine bound tokens.toArray (.stmt .field) with
      | some line => some line
      | none => fieldFault bound rest
termination_by structural bound _ => bound

/-- The line to report for tokens that a rule does not accept, and nothing
for those that it accepts. -/
def faultLine : (bound : Nat) → Array Token → Rule → Option Nat
  | 0, _, _ => none
  | bound + 1, tokens, r =>
      let (found, plain) := (apply ⟨tokens, false⟩ bound r 0).run {}
      match plain.fault, found with
      | some line, _ => some (afterRest tokens plain.seen line)
      | none, some _ => none
      | none, none =>
          let (_, thorough) :=
            (apply ⟨tokens, true⟩ bound r 0).run { seen := plain.seen }
          match thorough.fault with
          | some line => some (afterRest tokens thorough.seen line)
          | none => some (plainLine tokens plain.seen thorough.seen)
termination_by structural bound _ _ => bound

end

/-- A bound for nested calls that a text of this length cannot reach: between
two tokens there are fewer calls than this multiple, and a formatted string
may hold a text of its own. -/
def callBound (length : Nat) : Nat := 4000 * (length + 4)

end Purity.Mistake
