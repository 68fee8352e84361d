/-
The rules for parameters, as a table. A parameter is read together with
the comma behind it, or with the sign that closes the list coming next.
Parameters of a lambda have no annotations, and a colon closes them.

Consumed by the search for mistakes.
-/
import Purity.Syntax.Mistake.Form

namespace Purity.Mistake

open Form (opt many ahead)
open ExprRule ParamRule SlipRule

/-- The alternatives of the rules for parameters. -/
def ParamRule.alternatives : ParamRule → List Alternative
  | params => [
      ([badParameters], .part 0),
      ([parameters], .part 0)]
  | parameters => [
      ([slashNoDefault, many paramNoDefault, many paramWithDefault,
        opt starEtc], .mark),
      ([slashWithDefault, many paramWithDefault, opt starEtc], .mark),
      ([.some paramNoDefault, many paramWithDefault, opt starEtc], .mark),
      ([.some paramWithDefault, opt starEtc], .mark),
      ([starEtc], .mark)]
  | slashNoDefault => [
      ([.some paramNoDefault, "/", ","], .mark),
      ([.some paramNoDefault, "/", ahead ")"], .mark)]
  | slashWithDefault => [
      ([many paramNoDefault, .some paramWithDefault, "/", ","], .mark),
      ([many paramNoDefault, .some paramWithDefault, "/", ahead ")"], .mark)]
  | starEtc => [
      ([badStarEtc], .part 0),
      (["*", paramNoDefault, many paramMaybeDefault, opt kwds], .mark),
      (["*", paramStarAnnotated, many paramMaybeDefault, opt kwds], .mark),
      (["*", ",", .some paramMaybeDefault, opt kwds], .mark),
      ([kwds], .mark)]
  | kwds => [
      ([badKwds], .part 0),
      (["**", paramNoDefault], .mark)]
  | paramNoDefault => [
      ([param, ",", opt .never], .part 0),
      ([param, opt .never, ahead ")"], .part 0)]
  | paramStarAnnotated => [
      ([starAnnotatedParam, ",", opt .never], .part 0),
      ([starAnnotatedParam, opt .never, ahead ")"], .part 0)]
  | paramWithDefault => [
      ([param, defaultValue, ",", opt .never], .part 0),
      ([param, defaultValue, opt .never, ahead ")"], .part 0)]
  | paramMaybeDefault => [
      ([param, opt defaultValue, ",", opt .never], .part 0),
      ([param, opt defaultValue, opt .never, ahead ")"], .part 0)]
  | param => [([.name, opt annotation], .node)]
  | starAnnotatedParam => [([.name, starAnnotation], .node)]
  | annotation => [([":", expression], .mark)]
  | starAnnotation => [([":", starExpression], .mark)]
  | defaultValue => [
      (["=", expression], .mark),
      ([badDefault], .part 0)]
  | lambdaParams => [
      ([badLambdaParameters], .part 0),
      ([lambdaParameters], .part 0)]
  | lambdaParameters => [
      ([lambdaSlashNoDefault, many lambdaParamNoDefault,
        many lambdaParamWithDefault, opt lambdaStarEtc], .mark),
      ([lambdaSlashWithDefault, many lambdaParamWithDefault,
        opt lambdaStarEtc], .mark),
      ([.some lambdaParamNoDefault, many lambdaParamWithDefault,
        opt lambdaStarEtc], .mark),
      ([.some lambdaParamWithDefault, opt lambdaStarEtc], .mark),
      ([lambdaStarEtc], .mark)]
  | lambdaSlashNoDefault => [
      ([.some lambdaParamNoDefault, "/", ","], .mark),
      ([.some lambdaParamNoDefault, "/", ahead ":"], .mark)]
  | lambdaSlashWithDefault => [
      ([many lambdaParamNoDefault, .some lambdaParamWithDefault, "/", ","],
        .mark),
      ([many lambdaParamNoDefault, .some lambdaParamWithDefault, "/",
        ahead ":"], .mark)]
  | lambdaStarEtc => [
      ([badLambdaStarEtc], .part 0),
      (["*", lambdaParamNoDefault, many lambdaParamMaybeDefault,
        opt lambdaKwds], .mark),
      (["*", ",", .some lambdaParamMaybeDefault, opt lambdaKwds], .mark),
      ([lambdaKwds], .mark)]
  | lambdaKwds => [
      ([badLambdaKwds], .part 0),
      (["**", lambdaParamNoDefault], .mark)]
  | lambdaParamNoDefault => [
      ([lambdaParam, ","], .part 0),
      ([lambdaParam, ahead ":"], .part 0)]
  | lambdaParamWithDefault => [
      ([lambdaParam, defaultValue, ","], .part 0),
      ([lambdaParam, defaultValue, ahead ":"], .part 0)]
  | lambdaParamMaybeDefault => [
      ([lambdaParam, opt defaultValue, ","], .part 0),
      ([lambdaParam, opt defaultValue, ahead ":"], .part 0)]
  | lambdaParam => [([.name], .node)]

end Purity.Mistake
