/-
The rules for statements and for whole texts, as a table. A text is a
file, a single expression, or the expression of a replacement field in a
formatted string.

Consumed by the search for mistakes.
-/
import Purity.Syntax.Mistake.Form

namespace Purity.Mistake

open Form (opt many sep oneOf ahead notAhead commit insist any behind)
open ExprRule TargetRule ParamRule PatternRule StmtRule SlipRule

/-- A value that is handed out or computed. -/
def yieldOrValue : Form := any [yieldExpr, starExpressions]

/-- The alternatives of the rules for statements. -/
def StmtRule.alternatives : StmtRule → List Alternative
  | file => [([opt statements, .endOfText], .mark)]
  | evaluation => [([expressions, many .newline, .endOfText], .mark)]
  | field => [([starExpressions], .part 0)]
  | statements => [([.some statement], .mark)]
  | statement => [
      ([compoundStmt], .mark),
      ([simpleStmts], .mark)]
  | simpleStmts => [
      ([simpleStmt, notAhead ";", .newline], .mark),
      ([sep ";" simpleStmt, opt ";", .newline], .mark)]
  | simpleStmt => [
      ([assignment], .mark),
      ([starExpressions], .mark),
      ([ahead "return", returnStmt], .mark),
      ([ahead (any ["import", "from"]), importStmt], .mark),
      ([ahead "raise", raiseStmt], .mark),
      (["pass"], .mark),
      ([ahead "del", delStmt], .mark),
      ([ahead "yield", yieldStmt], .mark),
      ([ahead "assert", assertStmt], .mark),
      (["break"], .mark),
      (["continue"], .mark),
      ([ahead "global", globalStmt], .mark),
      ([ahead "nonlocal", nonlocalStmt], .mark)]
  | compoundStmt => [
      ([ahead (any ["def", "@", "async"]), functionDef], .mark),
      ([ahead "if", ifStmt], .mark),
      ([ahead (any ["class", "@"]), classDef], .mark),
      ([ahead (any ["with", "async"]), withStmt], .mark),
      ([ahead (any ["for", "async"]), forStmt], .mark),
      ([ahead "try", tryStmt], .mark),
      ([ahead "while", whileStmt], .mark),
      ([matchStmt], .mark)]
  | assignment => [
      ([.name, ":", expression, opt (behind "=" annotatedValue)], .mark),
      ([oneOf [(["(", singleTarget, ")"], .part 1), ([placeTarget], .part 0)],
        ":", expression, opt (behind "=" annotatedValue)], .mark),
      ([.some (.all [starTargets, "="]), yieldOrValue, notAhead "=",
        opt .never], .mark),
      ([singleTarget, augmentedSign, commit, yieldOrValue], .mark),
      ([badAssignment], .part 0)]
  | annotatedValue => [
      ([yieldExpr], .part 0),
      ([starExpressions], .part 0)]
  | augmentedSign => [
      (["+="], .mark), (["-="], .mark), (["*="], .mark), (["@="], .mark),
      (["/="], .mark), (["%="], .mark), (["&="], .mark), (["|="], .mark),
      (["^="], .mark), (["<<="], .mark),
      ([">>="], .mark), (["**="], .mark), (["//="], .mark)]
  | returnStmt => [(["return", opt starExpressions], .mark)]
  | raiseStmt => [
      (["raise", expression, opt (behind "from" expression)], .mark),
      (["raise"], .mark)]
  | globalStmt => [(["global", sep "," .name], .mark)]
  | nonlocalStmt => [(["nonlocal", sep "," .name], .mark)]
  | delStmt => [
      (["del", delTargets, ahead (any [";", .newline])], .mark),
      ([badDel], .part 0)]
  | yieldStmt => [([yieldExpr], .mark)]
  | assertStmt =>
      [(["assert", expression, opt (behind "," expression)], .mark)]
  | importStmt => [
      ([importName], .mark),
      ([importFrom], .mark)]
  | importName => [(["import", dottedAsNames], .mark)]
  | importFrom => [
      (["from", many (any [".", "..."]), dottedName, "import",
        importFromTargets], .mark),
      (["from", .some (any [".", "..."]), "import", importFromTargets], .mark)]
  | importFromTargets => [
      (["(", importFromAsNames, opt ",", ")"], .mark),
      ([importFromAsNames, notAhead ","], .mark),
      (["*"], .mark),
      ([badImportFromTargets], .part 0)]
  | importFromAsNames => [([sep "," importFromAsName], .mark)]
  | importFromAsName => [([.name, opt (behind "as" .name)], .mark)]
  | dottedAsNames => [([sep "," dottedAsName], .mark)]
  | dottedAsName => [([dottedName, opt (behind "as" .name)], .mark)]
  | dottedName => [
      ([dottedName, ".", .name], .mark),
      ([.name], .mark)]
  | block => [
      ([.newline, .indent, statements, .dedent], .mark),
      ([simpleStmts], .mark),
      ([badBlock], .part 0)]
  | decorators => [([.some (.all ["@", namedExpression, .newline])], .mark)]
  | classDef => [
      ([decorators, classDefRaw], .mark),
      ([classDefRaw], .mark)]
  | classDefRaw => [
      ([badClass], .part 0),
      (["class", .name, opt (.all ["(", opt arguments, ")"]), ":", block],
        .mark)]
  | functionDef => [
      ([decorators, functionDefRaw], .mark),
      ([functionDefRaw], .mark)]
  | functionDefRaw => [
      ([badDef], .part 0),
      (["def", .name, insist "(", opt params, ")",
        opt (behind "->" expression), insist ":", opt typeComment, block],
          .mark),
      (["async", "def", .name, insist "(", opt params, ")",
        opt (behind "->" expression), insist ":", opt typeComment, block],
          .mark)]
  | typeComment => [
      ([.newline, .never, ahead (.all [.newline, .indent])], .mark),
      ([.never], .mark)]
  | ifStmt => [
      ([badIf], .part 0),
      (["if", namedExpression, ":", block, elifStmt], .mark),
      (["if", namedExpression, ":", block, opt elseBlock], .mark)]
  | elifStmt => [
      ([badElif], .part 0),
      (["elif", namedExpression, ":", block, elifStmt], .mark),
      (["elif", namedExpression, ":", block, opt elseBlock], .mark)]
  | elseBlock => [
      ([badElse], .part 0),
      (["else", insist ":", block], .mark)]
  | whileStmt => [
      ([badWhile], .part 0),
      (["while", namedExpression, ":", block, opt elseBlock], .mark)]
  | forStmt => [
      ([badFor], .part 0),
      (["for", starTargets, "in", commit, starExpressions, ":", opt .never,
        block, opt elseBlock], .mark),
      (["async", "for", starTargets, "in", commit, starExpressions, ":",
        opt .never, block, opt elseBlock], .mark),
      ([badForTarget], .part 0)]
  | withStmt => [
      ([badWithBlock], .part 0),
      (["with", "(", sep "," withItem, opt ",", ")", ":", block], .mark),
      (["with", sep "," withItem, ":", opt .never, block], .mark),
      (["async", "with", "(", sep "," withItem, opt ",", ")", ":", block],
        .mark),
      (["async", "with", sep "," withItem, ":", opt .never, block], .mark),
      ([badWith], .part 0)]
  | withItem => [
      ([expression, "as", starTarget, ahead (any [",", ")", ":"])], .mark),
      ([badWithItem], .part 0),
      ([expression], .mark)]
  | tryStmt => [
      ([badTry], .part 0),
      (["try", insist ":", block, finallyBlock], .mark),
      (["try", insist ":", block, .some exceptBlock, opt elseBlock,
        opt finallyBlock], .mark),
      (["try", insist ":", block, .some exceptStarBlock, opt elseBlock,
        opt finallyBlock], .mark)]
  | exceptBlock => [
      ([badExceptBlock], .part 0),
      (["except", expression, opt (behind "as" .name), ":", block], .mark),
      (["except", ":", block], .mark),
      ([badExcept], .part 0)]
  | exceptStarBlock => [
      ([badExceptStarBlock], .part 0),
      (["except", "*", expression, opt (behind "as" .name), ":", block],
        .mark),
      ([badExcept], .part 0)]
  | finallyBlock => [
      ([badFinallyBlock], .part 0),
      (["finally", insist ":", block], .mark)]
  | matchStmt => [
      ([.soft "match", subject, ":", .newline, .indent, .some caseBlock,
        .dedent], .mark),
      ([badMatch], .part 0)]
  | subject => [
      ([starNamedExpression, ",", opt starNamedExpressions], .display),
      ([namedExpression], .part 0)]
  | caseBlock => [
      ([badCase], .part 0),
      ([.soft "case", patterns, opt caseGuard, ":", block], .mark)]
  | caseGuard => [(["if", namedExpression], .mark)]

end Purity.Mistake
