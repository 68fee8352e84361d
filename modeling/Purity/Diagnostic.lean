/-
A finding of the checker and the text it is reported with. Consumed by
the classification, the report and the command line.
-/
import Purity.Rule

namespace Purity

/-- One finding. -/
structure Diagnostic where
  /-- Name of the definition it is about. -/
  module : String
  message : String
  /-- Code of the rule that was broken. -/
  code : String
  filename : String
  line : Int
  /-- The items at fault. -/
  details : List RawText := []

namespace Diagnostic

/-- Every finding has this weight, so any finding fails a run. -/
def severity : String := "warning"

/-- The finding as one line, followed by the explanation of its rule when
`verbose` is asked for. -/
def render (d : Diagnostic) (verbose : Bool) : String :=
  let line :=
    d.filename ++ ":" ++ toString d.line ++ " - " ++ d.message ++ " (" ++
      d.code ++ ")"
  match verbose, Rule.ofCode? d.code with
  | true, some rule => line ++ "\n\n" ++ rule.details
  | _, _ => line

end Diagnostic

end Purity
