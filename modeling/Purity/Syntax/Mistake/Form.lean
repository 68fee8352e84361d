/-
Grammar as data. A text that is not Python is read a second time, only to
find the line to report, and for that the grammar is written down as a
table of rules: each rule has alternatives that are tried in order, and an
alternative is a list of forms to be met one behind the other.

Of what a rule has matched only a sketch is kept, which is all that the
rules for mistakes ask about. Consumed by the tables of rules beside this
file and by the search, which walks through them.
-/
import Purity.Syntax.Token

namespace Purity.Mistake

-- ================================================================ rules

/-- Rules for expressions. -/
inductive ExprRule where
  | expressions | expression | plainExpression | yieldExpr
  | starExpressions | starExpression | starNamedExpressions
  | starNamedExpression | assignmentExpression | namedExpression
  | disjunction | conjunction | inversion | comparison | comparisonTail
  | bitOr | bitXor | bitAnd | shift | sum | term | factor | power
  | awaitPrimary | primary | slices | slice | atom | bracketed | strings
  | listDisplay | tupleDisplay | setDisplay | dictDisplay
  | pairs | starredPair | pair
  | clauses | clause | listComp | setComp | generator | dictComp
  | arguments | args | kwargs | starredArgument | kwargOrStarred
  | kwargOrDoubleStarred | lambdef
  deriving DecidableEq, Hashable

/-- Rules for what values are assigned to. -/
inductive TargetRule where
  | starTargets | starTargetsInList | starTargetsInTuple | starTarget
  | targetWithStarAtom | starAtom
  | singleTarget | placeTarget | targetPrimary | targetGoesOn
  | delTargets | delTarget | delAtom
  deriving DecidableEq, Hashable

/-- Rules for parameters, of functions and of lambdas. -/
inductive ParamRule where
  | params | parameters | slashNoDefault | slashWithDefault | starEtc | kwds
  | paramNoDefault | paramStarAnnotated | paramWithDefault | paramMaybeDefault
  | param | starAnnotatedParam | annotation | starAnnotation | defaultValue
  | lambdaParams | lambdaParameters | lambdaSlashNoDefault
  | lambdaSlashWithDefault | lambdaStarEtc | lambdaKwds
  | lambdaParamNoDefault | lambdaParamWithDefault | lambdaParamMaybeDefault
  | lambdaParam
  deriving DecidableEq, Hashable

/-- Rules for patterns. -/
inductive PatternRule where
  | patterns | pattern | asPattern | orPattern | closedPattern
  | literalPattern | literalKey | complexNumber | signedNumber
  | signedRealNumber | realNumber | imaginaryNumber
  | capturePattern | captureTarget | wildcardPattern | valuePattern
  | dottedMember | nameOrMember
  | groupPattern | sequencePattern | openSequence | maybeSequence
  | maybeStarPattern | starPattern
  | mappingPattern | mappingItems | keyValuePattern | doubleStarPattern
  | classPattern | positionalPatterns | keywordPatterns | keywordPattern
  deriving DecidableEq, Hashable

/-- Rules for statements and for whole texts. -/
inductive StmtRule where
  | file | evaluation | field
  | statements | statement | simpleStmts | simpleStmt | compoundStmt
  | assignment | annotatedValue | augmentedSign
  | returnStmt | raiseStmt | globalStmt | nonlocalStmt | delStmt | yieldStmt
  | assertStmt | importStmt | importName | importFrom | importFromTargets
  | importFromAsNames | importFromAsName
  | dottedAsNames | dottedAsName | dottedName
  | block | decorators | classDef | classDefRaw | functionDef | functionDefRaw
  | typeComment
  | ifStmt | elifStmt | elseBlock | whileStmt | forStmt | withStmt | withItem
  | tryStmt | exceptBlock | exceptStarBlock | finallyBlock
  | matchStmt | subject | caseBlock | caseGuard
  deriving DecidableEq, Hashable

/-- Rules for mistakes. What they match is not Python, and they say which
line to report for it. -/
inductive SlipRule where
  | badArguments | badKwarg | oldStatement | badExpression | badNamedExpression
  | badAssignment | badAnnotated | badDel | badBlock | badComprehension
  | badDictComprehension
  | badParameters | badDefault | badStarEtc | badKwds | parametersWithDefault
  | badLambdaParameters | lambdaParametersWithDefault | badLambdaStarEtc
  | badLambdaKwds
  | badWithItem | badForTarget | badGroup | badImportFromTargets
  | badWith | badWithBlock | badTry | badExcept | badFinallyBlock
  | badExceptBlock | badExceptStarBlock
  | badMatch | badCase | badAsPattern | badClassPattern | badClassArguments
  | badIf | badElif | badElse | badWhile | badFor | badDef | badClass
  | badPairs | badPair
  deriving DecidableEq, Hashable

/-- A rule of the grammar. -/
inductive Rule where
  | expr (r : ExprRule)
  | target (r : TargetRule)
  | param (r : ParamRule)
  | pattern (r : PatternRule)
  | stmt (r : StmtRule)
  | slip (r : SlipRule)
  deriving DecidableEq, Hashable

-- ================================================================ forms

/-- What a target is meant for. -/
inductive TargetUse where
  | store | loop | delete
  deriving DecidableEq

/-- What an alternative gives once all its forms are met. Parts are counted
from zero. -/
inductive Yield where
  /-- The sketch of one part. -/
  | part (i : Nat)
  /-- The only item of a list, or a node for several. -/
  | single (i : Nat)
  /-- An expression or pattern of no kind that matters. -/
  | node
  /-- A member or an item of something, which can be assigned to. -/
  | place
  /-- All parts, as items of what stands around them. -/
  | list
  /-- A tuple, a list or an argument list with the items in its parts. -/
  | display
  /-- A star with one part behind it. -/
  | starred (i : Nat)
  /-- A comparison: its left side, and the list of what follows. -/
  | comparison
  /-- Nothing that an expression could be made of. -/
  | mark
  /-- The text of strings side by side, which may be malformed. -/
  | strings
  /-- A number that must not be imaginary. -/
  | real
  /-- A number that must be imaginary. -/
  | imaginary
  /-- A mistake, reported where a part starts. -/
  | blame (i : Nat)
  /-- A mistake, reported at the furthest token looked at. -/
  | blameHere
  /-- A mistake if a part holds something that is no target. -/
  | blameTarget (use : TargetUse) (i : Nat)
  /-- A mistake if a part is a name that used to open a statement. -/
  | blameOldName (i : Nat)
  /-- A missing comma behind a part, which is a mistake between brackets. -/
  | blameComma (i : Nat)
  /-- A mistake if a part is more than one argument, reported at the last. -/
  | blameLastArgument (i : Nat)

/-- What has to be met at a place of the text. -/
inductive Form where
  /-- Punctuation or a reserved word. -/
  | lit (symbol : String)
  /-- A word that is reserved at this place only. -/
  | soft (word : String)
  /-- A name that starts like a word reserved at some places. -/
  | softStart | name | number
  | string | newline | indent
  | dedent | endOfText
  /-- Something that no text holds. -/
  | never
  | rule (r : Rule)
  | opt (f : Form)
  | many (f : Form)
  | some (f : Form)
  /-- Items divided by a sign, at least one. -/
  | sep (sign : String) (f : Form)
  | oneOf (alternatives : List (List Form × Yield))
  /-- The form would be met here; nothing is passed. -/
  | ahead (f : Form)
  /-- The form would not be met here; nothing is passed. -/
  | notAhead (f : Form)
  /-- No other alternative is tried from here on. -/
  | commit
  /-- Punctuation without which the text is wrong. -/
  | insist (symbol : String)

/-- An alternative of a rule. -/
abbrev Alternative := List Form × Yield

namespace Form

instance : Coe String Form := ⟨lit⟩
instance : Coe ExprRule Form := ⟨fun r => rule (.expr r)⟩
instance : Coe TargetRule Form := ⟨fun r => rule (.target r)⟩
instance : Coe ParamRule Form := ⟨fun r => rule (.param r)⟩
instance : Coe PatternRule Form := ⟨fun r => rule (.pattern r)⟩
instance : Coe StmtRule Form := ⟨fun r => rule (.stmt r)⟩
instance : Coe SlipRule Form := ⟨fun r => rule (.slip r)⟩

/-- Several forms one behind the other, as one. -/
def all (forms : List Form) : Form := oneOf [(forms, .mark)]

/-- One of several forms. -/
def any (forms : List Form) : Form := oneOf (forms.map fun f => ([f], .part 0))

/-- Items that each stand behind a sign. -/
def behind (sign : String) (f : Form) : Form :=
  oneOf [([lit sign, f], .part 1)]

end Form

-- ============================================================== sketches

/-- What is kept of an expression: the line where it starts, and its kind
as far as that matters for targets. -/
inductive Sketch where
  | name (line : Nat) (id : String)
  | place (line : Nat)
  | display (line : Nat) (items : List Sketch)
  | starred (line : Nat) (value : Sketch)
  /-- A comparison, with its left side if its first sign is `in`. -/
  | comparison (line : Nat) (left : Option Sketch)
  | other (line : Nat)

namespace Sketch

/-- Where the expression starts. -/
def line : Sketch → Nat
  | name line _ | place line | display line _ | starred line _
  | comparison line _ | other line => line

/-- Where the parts start that are no targets for this use. Behind a `for`
the target ends where the word `in` makes a comparison of it. -/
def wrongTargets (use : TargetUse) : Sketch → List Nat
  | name .. | place _ => []
  | display _ items => items.flatMap fun s => s.wrongTargets use
  | starred line value =>
      if use = .delete then [line] else value.wrongTargets use
  | comparison line none => if use = .loop then [] else [line]
  | comparison line (some left) =>
      if use = .loop then left.wrongTargets use else [line]
  | other line => [line]

/-- Is it a name that used to open a statement of its own? -/
def isOldName : Sketch → Bool
  | name _ id => id == "print" || id == "exec"
  | _ => false

end Sketch

/-- What a form has matched. -/
inductive Match where
  | token (line : Nat) (symbol : String)
  | expr (sketch : Sketch)
  | items (matched : List Match)
  | absent

namespace Match

/-- Where it starts; a part that is missing starts nowhere. -/
def line : Match → Nat
  | token line _ => line
  | expr s => s.line
  | items (m :: _) => m.line
  | items [] | absent => 0

/-- The expressions in it. -/
def sketches : Match → List Sketch
  | expr s => [s]
  | items ms => ms.flatMap fun m => m.sketches
  | token .. | absent => []

end Match

end Purity.Mistake
