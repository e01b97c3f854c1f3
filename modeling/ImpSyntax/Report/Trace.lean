import ImpSyntax.Report.Chain

/-!
# Trace of a check

A trace writes the derivation as indented lines, one per event, each ending with a line
feed. Entering a rule writes `begin LABEL` and indents what follows one level more;
leaving it goes back one level and writes `end LABEL`. An accepted token writes
`SYMBOL 'text' on line N`, the text quoted, and `'<EOF>'` for the end of input. A mismatch
writes `syntax error: MESSAGE` where it happens, before the rules are left; success writes
`parse succeeded`. A level of indentation is any string.
-/

namespace ImpSyntax

/-- **A trace being written**: the text so far and the current depth. -/
structure Trace where
  text : String
  depth : Nat
  deriving Inhabited

namespace Trace

/-- Writing one line at the current depth. -/
def line (indent : String) (t : Trace) (s : String) : Trace :=
  { t with text := t.text ++ String.join (List.replicate t.depth indent) ++ s ++ "\n" }

/-- **Tracing one event**, for a check that names its source `source`. -/
def step (indent source : String) (t : Trace) : Event → Trace
  | .enter r => { t.line indent ("begin " ++ r.label) with depth := t.depth + 1 }
  | .exit r => { t with depth := t.depth - 1 }.line indent ("end " ++ r.label)
  | .accept tok =>
    let shown := if tok.symbol = .eof then "<EOF>" else tok.text
    t.line indent (tok.symbol.name ++ " " ++ Text.quote shown ++ " on line " ++
      toString tok.line)
  | .reject tok x =>
    t.line indent ("syntax error: " ++ syntaxMessage source tok.line x.text tok.found)
  | .success => t.line indent "parse succeeded"

end Trace

/-- **The trace of a check**, from depth zero. -/
def Run.trace (indent source : String) (r : Run) : Trace :=
  r.events.foldl (Trace.step indent source) ⟨"", 0⟩

end ImpSyntax
