/-
The rules for the patterns of a `match` statement, as a table. Consumed by
the search for mistakes.
-/
import Purity.Syntax.Mistake.Form

namespace Purity.Mistake

open Form (opt sep notAhead any)
open ExprRule PatternRule SlipRule

/-- The signs that a name standing for itself cannot have behind it. -/
def goesOnAsPattern : Form := any [".", "(", "="]

/-- The alternatives of the rules for patterns. -/
def PatternRule.alternatives : PatternRule → List Alternative
  | patterns => [
      ([openSequence], .node),
      ([pattern], .part 0)]
  | pattern => [
      ([asPattern], .part 0),
      ([orPattern], .part 0)]
  | asPattern => [
      ([orPattern, "as", captureTarget], .node),
      ([badAsPattern], .part 0)]
  | orPattern => [([sep "|" closedPattern], .single 0)]
  | closedPattern => [
      ([literalPattern], .part 0),
      ([capturePattern], .part 0),
      ([wildcardPattern], .part 0),
      ([valuePattern], .part 0),
      ([groupPattern], .part 0),
      ([sequencePattern], .part 0),
      ([mappingPattern], .part 0),
      ([classPattern], .part 0)]
  | literalPattern => [
      ([signedNumber, notAhead (any ["+", "-"])], .node),
      ([complexNumber], .node),
      ([strings], .node),
      (["None"], .node),
      (["True"], .node),
      (["False"], .node)]
  | literalKey => [
      ([signedNumber, notAhead (any ["+", "-"])], .node),
      ([complexNumber], .node),
      ([strings], .node),
      (["None"], .node),
      (["True"], .node),
      (["False"], .node)]
  | complexNumber => [
      ([signedRealNumber, "+", imaginaryNumber], .node),
      ([signedRealNumber, "-", imaginaryNumber], .node)]
  | signedNumber => [
      ([.number], .part 0),
      (["-", .number], .node)]
  | signedRealNumber => [
      ([realNumber], .part 0),
      (["-", realNumber], .node)]
  | realNumber => [([.number], .real)]
  | imaginaryNumber => [([.number], .imaginary)]
  | capturePattern => [([captureTarget], .node)]
  | captureTarget =>
      [([notAhead (.soft "_"), .name, notAhead goesOnAsPattern], .part 1)]
  | wildcardPattern => [([.soft "_"], .node)]
  | valuePattern => [([dottedMember, notAhead goesOnAsPattern], .node)]
  | dottedMember => [([nameOrMember, ".", .name], .place)]
  | nameOrMember => [
      ([dottedMember], .part 0),
      ([.name], .part 0)]
  | groupPattern => [(["(", pattern, ")"], .part 1)]
  | sequencePattern => [
      (["[", opt maybeSequence, "]"], .node),
      (["(", opt openSequence, ")"], .node)]
  | openSequence => [([maybeStarPattern, ",", opt maybeSequence], .list)]
  | maybeSequence => [([sep "," maybeStarPattern, opt ","], .part 0)]
  | maybeStarPattern => [
      ([starPattern], .part 0),
      ([pattern], .part 0)]
  | starPattern => [
      (["*", captureTarget], .node),
      (["*", wildcardPattern], .node)]
  | mappingPattern => [
      (["\x7b", "\x7d"], .node),
      (["\x7b", doubleStarPattern, opt ",", "\x7d"], .node),
      (["\x7b", mappingItems, ",", doubleStarPattern, opt ",", "\x7d"], .node),
      (["\x7b", mappingItems, opt ",", "\x7d"], .node)]
  | mappingItems => [([sep "," keyValuePattern], .part 0)]
  | keyValuePattern =>
      [([any [literalKey, dottedMember], ":", pattern], .mark)]
  | doubleStarPattern => [(["**", captureTarget], .part 1)]
  | classPattern => [
      ([nameOrMember, "(", ")"], .node),
      ([nameOrMember, "(", positionalPatterns, opt ",", ")"], .node),
      ([nameOrMember, "(", keywordPatterns, opt ",", ")"], .node),
      ([nameOrMember, "(", positionalPatterns, ",", keywordPatterns, opt ",",
        ")"], .node),
      ([badClassPattern], .part 0)]
  | positionalPatterns => [([sep "," pattern], .part 0)]
  | keywordPatterns => [([sep "," keywordPattern], .part 0)]
  | keywordPattern => [([.name, "=", pattern], .mark)]

end Purity.Mistake
