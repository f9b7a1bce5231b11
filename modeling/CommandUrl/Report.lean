import CommandUrl.Host.Conversation

/-!
# Reports

What a command did is reported to whoever sent it as a list of entries, which
are remarks and failures. A failure is logged as well and, where alerts are
wanted, shown to the user; the report, the log and the alerts tell the same
story in the same order.
-/

namespace CommandUrl

/-- How grave an entry of a report is. -/
inductive Severity where
  | info
  | error
  deriving Repr, DecidableEq

/-- The name of a severity. -/
def Severity.name : Severity → String
  | info => "info"
  | error => "error"

/-- An entry of a report. -/
inductive ReportEntry where
  | remark (message : String)
  | failure (failure : Failure)
  deriving Repr, DecidableEq

namespace ReportEntry

/-- How grave an entry is. -/
def severity : ReportEntry → Severity
  | remark _ => .info
  | failure _ => .error

/-- The code of a failure; remarks have none. -/
def code? : ReportEntry → Option String
  | remark _ => none
  | failure cause => some cause.code

/-- The wording of an entry. -/
def message : ReportEntry → String
  | remark message => message
  | failure cause => cause.message

end ReportEntry

/-- A report that is being written. -/
structure Report where
  /-- Failures are shown to the user. -/
  alerting : Bool
  /-- The name of the verb at work; empty before there is one. -/
  verb : String := ""
  entries : List ReportEntry := []
  deriving Repr, DecidableEq

/-- What talks to a host and reports on it. -/
abbrev Reporting (σ : Type) := StateT Report (Dialogue σ)

namespace Report

variable {σ : Type}

/-- The failures of a report. -/
def failures (report : Report) : List Failure :=
  report.entries.filterMap fun
    | .remark _ => none
    | .failure cause => some cause

/-- The report with one more entry. -/
def add (report : Report) (entry : ReportEntry) : Report :=
  { report with entries := report.entries ++ [entry] }

/-- Says which verb is at work. -/
def setVerb (name : String) : Reporting σ Unit :=
  fun report => pure ((), { report with verb := name })

/-- Reports a remark. -/
def remark (message : String) : Reporting σ Unit :=
  fun report => do
    Dialogue.log (.noted report.verb message)
    pure ((), report.add (.remark message))

/-- Reports a failure, and shows it where alerts are wanted. -/
def fail (host : Host σ) (cause : Failure) : Reporting σ Unit :=
  fun report => do
    Dialogue.log (.failed report.verb cause)
    if report.alerting then
      Dialogue.ask host (.alert cause)
    pure ((), report.add (.failure cause))

end Report

end CommandUrl
