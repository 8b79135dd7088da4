import MultiTarget.CommandLine.Run
import MultiTarget.Http.Client
import Std.Time.DateTime

/-!
# `MultiTarget.Main`: the program

Hands files, clock and environment to `CommandLine.run` and writes its
report. There is no network: every request stays without an answer.

Specification X.6.16.
-/

set_option autoImplicit false

open MultiTarget

/-- The text of a file, if it can be read. -/
def readText (path : String) : IO (Option String) := do
  try
    return some (← IO.FS.readFile path)
  catch _ => return none

/-- The present second. -/
def presentTime : IO Timestamp := do
  let now ← Std.Time.Timestamp.now
  return .ofUnixSeconds now.toSecondsSinceUnixEpoch.val.toNat

/-- Run the program. -/
def main (words : List String) : IO UInt32 := do
  let report ← CommandLine.run {
    fileText := readText
    now := presentTime
    token := ← IO.getEnv "CLOUDMODEL_TOKEN"
    client := .ofServer Http.unreachable
    pageLimit := 1 } words
  (← IO.getStdout).putStr report.output
  (← IO.getStderr).putStr report.errors
  return report.exitCode.toUInt32
