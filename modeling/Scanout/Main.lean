/-
Module: Scanout.Main
Purpose: Command line of the demonstration.
Imports: Scanout.Demo
Main exports: main
-/
import Scanout.Demo

open Scanout

/-- Show the demonstration for the driver and strategy given as arguments, and write its timeline
to a file. -/
def main (arguments : List String) : IO UInt32 := do
  match Demo.run arguments[0]? arguments[1]? with
  | .error problem =>
      IO.eprintln (Demo.complaint problem)
      return 101
  | .ok output =>
      for line in output.report do
        IO.println line
      IO.FS.writeFile Demo.timelineFile output.timeline
      IO.println output.closing
      return 0
