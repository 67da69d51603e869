import Oracion.Analysis

/-!
# The page of an analysis

An analysis as it is shown to a reader: the input between two rules, its words with
their categories, the verdict, and what is wrong if something is.

## Main definitions

* `Analysis.page` — the page.
-/

namespace Oracion

/-- The lines of the verdict on a page. -/
def Verdict.pageLines : Verdict → List String
  | .valid => ["", "✓ VALID SENTENCE - the structure matches the grammar"]
  | .invalid phase diagnostics =>
      ["", "✗ INVALID SENTENCE - rejected during " ++ phase.name ++ " analysis", "",
        "Diagnostics:"] ++
      diagnostics.map fun d => "  • " ++ d.message

/-- An analysis as a page of text. -/
def Analysis.page (a : Analysis) : String :=
  let rule := Text.times 60 "="
  Text.joinLines
    ([rule, "Input: '" ++ a.source ++ "'", rule, "", "Tokens:"] ++
      a.words.map (fun t => "  " ++ t.describe) ++
      a.verdict.pageLines ++
      [rule])

end Oracion
