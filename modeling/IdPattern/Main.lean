import IdPattern.Report

/-!
# The command line

Prints the report of the expressions that are given as arguments.
-/

/-- Prints the report. An expression at fault is part of the report and not a failure. -/
def main (args : List String) : IO UInt32 := do
  IO.print (IdPattern.Report.text args)
  return 0
