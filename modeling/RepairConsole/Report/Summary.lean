/-!
# Summaries

The line under a listing that counts its records by status. It counts all of them, however
few are shown; a status that is none of the five is not counted.
-/

namespace RepairConsole.Report

/-- The statuses of schedules, and what the summary calls them. -/
def scheduleStatuses : List (String × String) :=
  [ ("COMPLETED", "completed"), ("ON_TIME", "on time"), ("BLOCKED", "blocked"),
    ("LATE", "late"), ("OVERDUE", "overdue") ]

/-- The statuses of repairs, and what the summary calls them. -/
def repairStatuses : List (String × String) :=
  [ ("COMPLETED", "completed"), ("IN_QUEUE", "in queue"), ("BLOCKED", "blocked"),
    ("WARNING", "warning"), ("ERROR", "error") ]

/-- The place of a status among the labels. -/
def place? (labels : List (String × String)) (status : String) : Option Nat :=
  labels.findIdx? fun label => label.1 == status

/-- Counts one more record at the place of its status, if it has one. -/
def countAt (labels : List (String × String)) (counts : List Nat) (status : String) : List Nat :=
  match place? labels status with
  | some i => counts.modify i (· + 1)
  | none => counts

/-- How many records there are at each label. -/
def tally (labels : List (String × String)) (statuses : List String) : List Nat :=
  statuses.foldl (countAt labels) (List.replicate labels.length 0)

/-- The summary of the records with these statuses. -/
def summaryLine (labels : List (String × String)) (statuses : List String) : String :=
  "Summary: " ++ ", ".intercalate
    ((labels.zip (tally labels statuses)).map fun ((_, label), count) =>
      Nat.repr count ++ " " ++ label)

example : summaryLine repairStatuses ["ERROR", "error", "BLOCKED", "ERROR"] =
    "Summary: 0 completed, 0 in queue, 1 blocked, 0 warning, 2 error" := by decide +kernel

end RepairConsole.Report
