/-
The rules for mistakes, as a table. Each alternative describes a text that
is not Python, and the place to report for it: the start of a part, or the
furthest token looked at when something is missing behind it.

They are tried only when the text is already known to be wrong, apart from
those for the entries of a mapping, which are part of its rule. Consumed
by the search for mistakes.
-/
import Purity.Syntax.Mistake.Form

namespace Purity.Mistake

open Form (opt many sep oneOf ahead notAhead any behind)
open ExprRule TargetRule ParamRule PatternRule StmtRule SlipRule

/-- An item of a `with` statement as far as a header without a block has it. -/
def looseItem (value : Form) : Form :=
  .all [value, opt (behind "as" starTarget)]

/-- The name that a handler gives to what it handles. -/
def handlerName : Form := opt (behind "as" .name)

/-- A header whose line ends without a block behind it. -/
def blockless (header : List Form) : Alternative :=
  (header ++ [.newline, notAhead .indent], .blameHere)

/-- The signs that assign. -/
def assigns : Form := any ["=", ":="]

/-- The alternatives of the rules for mistakes. -/
def SlipRule.alternatives : SlipRule → List Alternative
  | badArguments => [
      ([args, ",", "*"], .blame 0),
      ([expression, clauses, ",",
        opt (any [args, .all [expression, clauses]])], .blame 0),
      ([.name, "=", expression, clauses], .blame 0),
      ([args, clauses], .blameLastArgument 0),
      ([args, ",", expression, clauses], .blame 2),
      ([args, ",", args], .blameHere)]
  | badKwarg => [
      ([any ["True", "False", "None"], "="], .blame 0),
      ([.name, "=", expression, clauses], .blame 0),
      ([notAhead (.all [.name, "="]), expression, "="], .blame 1)]
  | oldStatement => [([.name, notAhead "(", starExpressions], .blameOldName 0)]
  | badExpression => [
      ([notAhead (any [.all [.name, .string], .softStart]), disjunction,
        plainExpression], .blameComma 1),
      ([disjunction, "if", disjunction, notAhead (any ["else", ":"])],
        .blame 0)]
  | badNamedExpression => [
      ([expression, ":=", expression], .blame 0),
      ([.name, "=", bitOr, notAhead assigns], .blame 0),
      ([notAhead (any [listDisplay, tupleDisplay, generator, "True", "None",
        "False"]), bitOr, "=", bitOr, notAhead assigns], .blame 1)]
  | badAssignment => [
      ([badAnnotated, ":", expression], .blame 0),
      ([starNamedExpression, ",", many starNamedExpressions, ":", expression],
        .blame 0),
      ([expression, ":", expression], .blame 0),
      ([many (.all [starTargets, "="]), starExpressions, "="],
        .blameTarget .store 1),
      ([many (.all [starTargets, "="]), yieldExpr, "="], .blame 1),
      ([starExpressions, augmentedSign, any [yieldExpr, starExpressions]],
        .blame 0)]
  | badAnnotated => [
      ([listDisplay], .part 0),
      ([tupleDisplay], .part 0),
      (["(", badAnnotated, ")"], .part 1)]
  | badDel => [(["del", starExpressions], .blameTarget .delete 1)]
  | badBlock => [blockless []]
  | badComprehension => [
      ([any ["[", "(", "\x7b"], starredArgument, clauses], .blame 1),
      ([any ["[", "\x7b"], starNamedExpression, ",", starNamedExpressions,
        clauses], .blame 1),
      ([any ["[", "\x7b"], starNamedExpression, ",", clauses], .blame 1)]
  | badDictComprehension =>
      [(["\x7b", "**", bitOr, clauses, "\x7d"], .blame 1)]
  | badParameters => [
      ([many paramNoDefault, parametersWithDefault, paramNoDefault], .blame 2),
      ([many paramNoDefault, "(", .some paramNoDefault, opt ",", ")"],
        .blame 1),
      (["/", ","], .blame 0),
      ([any [slashNoDefault, slashWithDefault], many paramMaybeDefault, "/"],
        .blame 2),
      ([opt (any [slashNoDefault, slashWithDefault]),
        many paramMaybeDefault, "*", any [",", paramNoDefault],
        many paramMaybeDefault, "/"], .blame 5),
      ([.some paramMaybeDefault, "/", "*"], .blame 2)]
  | badDefault => [(["=", ahead (any [")", ","])], .blame 0)]
  | badStarEtc => [
      (["*", any [")", .all [",", any [")", "**"]]]], .blame 0),
      (["*", ",", .never], .blameHere),
      (["*", param, "="], .blame 2),
      (["*", any [paramNoDefault, ","], many paramMaybeDefault, "*",
        any [paramNoDefault, ","]], .blame 3)]
  | badKwds => [
      (["**", param, "="], .blame 2),
      (["**", param, ",", param], .blame 3),
      (["**", param, ",", any ["*", "**", "/"]], .blame 3)]
  | parametersWithDefault => [
      ([slashWithDefault], .mark),
      ([.some paramWithDefault], .mark)]
  | badLambdaParameters => [
      ([many lambdaParamNoDefault, lambdaParametersWithDefault,
        lambdaParamNoDefault], .blame 2),
      ([many lambdaParamNoDefault, "(", sep "," lambdaParam, opt ",", ")"],
        .blame 1),
      (["/", ","], .blame 0),
      ([any [lambdaSlashNoDefault, lambdaSlashWithDefault],
        many lambdaParamMaybeDefault, "/"], .blame 2),
      ([opt (any [lambdaSlashNoDefault, lambdaSlashWithDefault]),
        many lambdaParamMaybeDefault, "*", any [",", lambdaParamNoDefault],
        many lambdaParamMaybeDefault, "/"], .blame 5),
      ([.some lambdaParamMaybeDefault, "/", "*"], .blame 2)]
  | lambdaParametersWithDefault => [
      ([lambdaSlashWithDefault], .mark),
      ([.some lambdaParamWithDefault], .mark)]
  | badLambdaStarEtc => [
      (["*", any [":", .all [",", any [":", "**"]]]], .blameHere),
      (["*", lambdaParam, "="], .blame 2),
      (["*", any [lambdaParamNoDefault, ","],
        many lambdaParamMaybeDefault, "*", any [lambdaParamNoDefault, ","]],
          .blame 3)]
  | badLambdaKwds => [
      (["**", lambdaParam, "="], .blame 2),
      (["**", lambdaParam, ",", lambdaParam], .blame 3),
      (["**", lambdaParam, ",", any ["*", "**", "/"]], .blame 3)]
  | badWithItem => [
      ([expression, "as", expression, ahead (any [",", ")", ":"])],
        .blameTarget .store 2)]
  | badForTarget =>
      [([opt "async", "for", starExpressions], .blameTarget .loop 2)]
  | badGroup => [
      (["(", starredArgument, ")"], .blame 1),
      (["(", "**", expression, ")"], .blame 1)]
  | badImportFromTargets => [([importFromAsNames, ",", .newline], .blameHere)]
  | badWith => [
      ([opt "async", "with", sep "," (looseItem expression), .newline],
        .blameHere),
      ([opt "async", "with", "(", sep "," (looseItem expressions), opt ",",
        ")", .newline], .blameHere)]
  | badWithBlock => [
      blockless [opt "async", "with", sep "," (looseItem expression), ":"],
      blockless [opt "async", "with", "(", sep "," (looseItem expressions),
        opt ",", ")", ":"]]
  | badTry => [
      blockless ["try", ":"],
      (["try", ":", block, notAhead (any ["except", "finally"])], .blameHere),
      (["try", ":", many block, .some exceptBlock, "except", "*", expression,
        handlerName, ":"], .blame 4),
      (["try", ":", many block, .some exceptStarBlock, "except",
        opt (.all [expression, handlerName]), ":"], .blame 4)]
  | badExcept => [
      (["except", opt "*", expression, ",", expressions, handlerName, ":"],
        .blame 2),
      (["except", opt "*", expression, handlerName, .newline], .blameHere),
      (["except", .newline], .blameHere),
      (["except", "*", any [.newline, ":"]], .blameHere)]
  | badFinallyBlock => [blockless ["finally", ":"]]
  | badExceptBlock => [
      blockless ["except", expression, handlerName, ":"],
      blockless ["except", ":"]]
  | badExceptStarBlock =>
      [blockless ["except", "*", expression, handlerName, ":"]]
  | badMatch => [
      ([.soft "match", subject, .newline], .blameHere),
      blockless [.soft "match", subject, ":"]]
  | badCase => [
      ([.soft "case", patterns, opt caseGuard, .newline], .blameHere),
      blockless [.soft "case", patterns, opt caseGuard, ":"]]
  | badAsPattern => [
      ([orPattern, "as", .soft "_"], .blame 2),
      ([orPattern, "as", notAhead .name, expression], .blame 3)]
  | badClassPattern => [([nameOrMember, "(", badClassArguments], .blame 2)]
  | badClassArguments => [
      ([opt (.all [positionalPatterns, ","]), keywordPatterns, ",",
        positionalPatterns], .part 3)]
  | badIf => [
      (["if", namedExpression, .newline], .blameHere),
      blockless ["if", namedExpression, ":"]]
  | badElif => [
      (["elif", namedExpression, .newline], .blameHere),
      blockless ["elif", namedExpression, ":"]]
  | badElse => [blockless ["else", ":"]]
  | badWhile => [
      (["while", namedExpression, .newline], .blameHere),
      blockless ["while", namedExpression, ":"]]
  | badFor => [
      ([opt "async", "for", starTargets, "in", starExpressions, .newline],
        .blameHere),
      blockless [opt "async", "for", starTargets, "in", starExpressions, ":"]]
  | badDef => [
      blockless [opt "async", "def", .name, "(", opt params, ")",
        opt (behind "->" expression), ":"]]
  | badClass => [
      (["class", .name, opt (.all ["(", opt arguments, ")"]), .newline],
        .blameHere),
      blockless ["class", .name, opt (.all ["(", opt arguments, ")"]), ":"]]
  | badPairs => [
      ([sep "," starredPair, ",", badPair], .mark),
      ([expression, ":", "*", bitOr], .blame 2),
      ([expression, ":", ahead (any ["\x7d", ","])], .blame 1)]
  | badPair => [
      ([expression, notAhead ":"], .blame 0),
      ([expression, ":", "*", bitOr], .blame 2),
      ([expression, ":", ahead (any ["\x7d", ","])], .blame 1)]

end Purity.Mistake
