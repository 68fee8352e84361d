/-
The rules for expressions and for what values are assigned to, as a table.
The order of the alternatives matters: the first one that is met is taken,
and every token that an alternative looks at on the way counts as seen.

Rules that start with themselves group from the left. Consumed by the
search for mistakes.
-/
import Purity.Syntax.Mistake.Form

namespace Purity.Mistake

open Form (opt many sep oneOf ahead notAhead commit any behind)
open ExprRule TargetRule ParamRule SlipRule

/-- An expression, or a name that is given the value of one. -/
def plainArgument : Form :=
  oneOf [([assignmentExpression], .part 0),
    ([expression, notAhead ":="], .part 0)]

/-- The alternatives of the rules for expressions. -/
def ExprRule.alternatives : ExprRule → List Alternative
  | expressions => [
      ([expression, .some (behind "," expression), opt ","], .display),
      ([expression, ","], .display),
      ([expression], .part 0)]
  | expression => [
      ([badExpression], .part 0),
      ([oldStatement], .part 0),
      ([disjunction, "if", disjunction, "else", expression], .node),
      ([disjunction], .part 0),
      ([lambdef], .part 0)]
  | plainExpression => [
      ([disjunction, "if", disjunction, "else", expression], .node),
      ([disjunction], .part 0),
      ([lambdef], .part 0)]
  | yieldExpr => [
      (["yield", "from", expression], .node),
      (["yield", opt starExpressions], .node)]
  | starExpressions => [
      ([starExpression, .some (behind "," starExpression), opt ","], .display),
      ([starExpression, ","], .display),
      ([starExpression], .part 0)]
  | starExpression => [
      (["*", bitOr], .starred 1),
      ([expression], .part 0)]
  | starNamedExpressions => [([sep "," starNamedExpression, opt ","], .part 0)]
  | starNamedExpression => [
      (["*", bitOr], .starred 1),
      ([namedExpression], .part 0)]
  | assignmentExpression => [([.name, ":=", commit, expression], .node)]
  | namedExpression => [
      ([assignmentExpression], .part 0),
      ([badNamedExpression], .part 0),
      ([expression, notAhead ":="], .part 0)]
  | disjunction => [
      ([conjunction, .some (behind "or" conjunction)], .node),
      ([conjunction], .part 0)]
  | conjunction => [
      ([inversion, .some (behind "and" inversion)], .node),
      ([inversion], .part 0)]
  | inversion => [
      (["not", inversion], .node),
      ([comparison], .part 0)]
  | comparison => [
      ([bitOr, .some comparisonTail], .comparison),
      ([bitOr], .part 0)]
  | comparisonTail => [
      (["==", bitOr], .part 0),
      (["!=", bitOr], .part 0),
      (["<=", bitOr], .part 0),
      (["<", bitOr], .part 0),
      ([">=", bitOr], .part 0),
      ([">", bitOr], .part 0),
      (["not", "in", bitOr], .part 0),
      (["in", bitOr], .part 0),
      (["is", "not", bitOr], .part 0),
      (["is", bitOr], .part 0)]
  | bitOr => [
      ([bitOr, "|", bitXor], .node),
      ([bitXor], .part 0)]
  | bitXor => [
      ([bitXor, "^", bitAnd], .node),
      ([bitAnd], .part 0)]
  | bitAnd => [
      ([bitAnd, "&", shift], .node),
      ([shift], .part 0)]
  | shift => [
      ([shift, "<<", sum], .node),
      ([shift, ">>", sum], .node),
      ([sum], .part 0)]
  | sum => [
      ([sum, "+", term], .node),
      ([sum, "-", term], .node),
      ([term], .part 0)]
  | term => [
      ([term, "*", factor], .node),
      ([term, "/", factor], .node),
      ([term, "//", factor], .node),
      ([term, "%", factor], .node),
      ([term, "@", factor], .node),
      ([factor], .part 0)]
  | factor => [
      (["+", factor], .node),
      (["-", factor], .node),
      (["~", factor], .node),
      ([power], .part 0)]
  | power => [
      ([awaitPrimary, "**", factor], .node),
      ([awaitPrimary], .part 0)]
  | awaitPrimary => [
      (["await", primary], .node),
      ([primary], .part 0)]
  | primary => [
      ([primary, ".", .name], .place),
      ([primary, generator], .node),
      ([primary, "(", opt arguments, ")"], .node),
      ([primary, "[", slices, "]"], .place),
      ([atom], .part 0)]
  | slices => [
      ([slice, notAhead ","], .part 0),
      ([sep "," (any [slice, starredArgument]), opt ","], .display)]
  | slice => [
      ([opt expression, ":", opt expression, opt (.all [":", opt expression])],
        .node),
      ([namedExpression], .part 0)]
  | atom => [
      ([.name], .part 0),
      (["True"], .node),
      (["False"], .node),
      (["None"], .node),
      ([ahead .string, strings], .part 1),
      ([.number], .part 0),
      ([ahead "(", any [tupleDisplay, bracketed, generator]], .part 1),
      ([ahead "[", any [listDisplay, listComp]], .part 1),
      ([ahead "\x7b", any [dictDisplay, setDisplay, dictComp, setComp]],
        .part 1),
      (["..."], .node)]
  | bracketed => [
      (["(", any [yieldExpr, namedExpression], ")"], .part 1),
      ([badGroup], .part 0)]
  | strings => [([.some .string], .strings)]
  | listDisplay => [(["[", opt starNamedExpressions, "]"], .display)]
  | tupleDisplay => [
      (["(", opt (oneOf [
        ([starNamedExpression, ",", opt starNamedExpressions], .list)]), ")"],
        .display)]
  | setDisplay => [(["\x7b", starNamedExpressions, "\x7d"], .node)]
  | dictDisplay => [
      (["\x7b", opt pairs, "\x7d"], .node),
      (["\x7b", badPairs, "\x7d"], .node)]
  | pairs => [([sep "," starredPair, opt ","], .mark)]
  | starredPair => [
      (["**", bitOr], .mark),
      ([pair], .part 0)]
  | pair => [([expression, ":", expression], .mark)]
  | clauses => [([.some clause], .mark)]
  | clause => [
      (["async", "for", starTargets, "in", commit, disjunction,
        many (behind "if" disjunction)], .mark),
      (["for", starTargets, "in", commit, disjunction,
        many (behind "if" disjunction)], .mark),
      ([badForTarget], .part 0)]
  | listComp => [
      (["[", namedExpression, clauses, "]"], .node),
      ([badComprehension], .part 0)]
  | setComp => [
      (["\x7b", namedExpression, clauses, "\x7d"], .node),
      ([badComprehension], .part 0)]
  | generator => [
      (["(", plainArgument, clauses, ")"], .node),
      ([badComprehension], .part 0)]
  | dictComp => [
      (["\x7b", pair, clauses, "\x7d"], .node),
      ([badDictComprehension], .part 0)]
  | arguments => [
      ([args, opt ",", ahead ")"], .part 0),
      ([badArguments], .part 0)]
  | args => [
      ([sep "," (oneOf [([starredArgument], .part 0),
        ([plainArgument, notAhead "="], .part 0)]), opt (behind "," kwargs)],
          .display),
      ([kwargs], .display)]
  | kwargs => [
      ([sep "," kwargOrStarred, ",", sep "," kwargOrDoubleStarred], .list),
      ([sep "," kwargOrStarred], .list),
      ([sep "," kwargOrDoubleStarred], .list)]
  | starredArgument => [(["*", expression], .starred 1)]
  | kwargOrStarred => [
      ([badKwarg], .part 0),
      ([.name, "=", expression], .mark),
      ([starredArgument], .part 0)]
  | kwargOrDoubleStarred => [
      ([badKwarg], .part 0),
      ([.name, "=", expression], .mark),
      (["**", expression], .mark)]
  | lambdef => [(["lambda", opt lambdaParams, ":", expression], .node)]

/-- The alternatives of the rules for targets. -/
def TargetRule.alternatives : TargetRule → List Alternative
  | starTargets => [
      ([starTarget, notAhead ","], .part 0),
      ([starTarget, many (behind "," starTarget), opt ","], .display)]
  | starTargetsInList => [([sep "," starTarget, opt ","], .part 0)]
  | starTargetsInTuple => [
      ([starTarget, .some (behind "," starTarget), opt ","], .list),
      ([starTarget, ","], .list)]
  | starTarget => [
      (["*", oneOf [([notAhead "*", starTarget], .part 1)]], .starred 1),
      ([targetWithStarAtom], .part 0)]
  | targetWithStarAtom => [
      ([targetPrimary, ".", .name, notAhead targetGoesOn], .place),
      ([targetPrimary, "[", slices, "]", notAhead targetGoesOn], .place),
      ([starAtom], .part 0)]
  | starAtom => [
      ([.name], .part 0),
      (["(", targetWithStarAtom, ")"], .part 1),
      (["(", opt starTargetsInTuple, ")"], .display),
      (["[", opt starTargetsInList, "]"], .display)]
  | singleTarget => [
      ([placeTarget], .part 0),
      ([.name], .part 0),
      (["(", singleTarget, ")"], .part 1)]
  | placeTarget => [
      ([targetPrimary, ".", .name, notAhead targetGoesOn], .place),
      ([targetPrimary, "[", slices, "]", notAhead targetGoesOn], .place)]
  | targetPrimary => [
      ([targetPrimary, ".", .name, ahead targetGoesOn], .place),
      ([targetPrimary, "[", slices, "]", ahead targetGoesOn], .place),
      ([targetPrimary, generator, ahead targetGoesOn], .node),
      ([targetPrimary, "(", opt arguments, ")", ahead targetGoesOn], .node),
      ([atom, ahead targetGoesOn], .part 0)]
  | targetGoesOn => [(["("], .part 0), (["["], .part 0), (["."], .part 0)]
  | delTargets => [([sep "," delTarget, opt ","], .part 0)]
  | delTarget => [
      ([targetPrimary, ".", .name, notAhead targetGoesOn], .place),
      ([targetPrimary, "[", slices, "]", notAhead targetGoesOn], .place),
      ([delAtom], .part 0)]
  | delAtom => [
      ([.name], .part 0),
      (["(", delTarget, ")"], .part 1),
      (["(", opt delTargets, ")"], .display),
      (["[", opt delTargets, "]"], .display)]

end Purity.Mistake
