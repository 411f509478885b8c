import Transports.Report
/-!
# The command line

Prints the report for the environment of the process; the exit code tells whether a group could be
made on the preferred transport.
-/

namespace Transports

/-- The values of the two variables that the settings read. -/
def readEnvironment : IO Environment := do
  let preference ← IO.getEnv Settings.preferenceKey
  let warnVersions ← IO.getEnv Settings.warnVersionsKey
  return fun key =>
    if key = Settings.preferenceKey then preference.map String.toUTF8
    else if key = Settings.warnVersionsKey then warnVersions.map String.toUTF8
    else none

end Transports

open Transports in
def main : IO UInt32 := do
  let env ← readEnvironment
  let (report, _) := (Report.take env (.linux 1)).run []
  IO.print report.text
  return report.exitCode
