import VelaFlow.Planner.Urgency

/-!
# What the sections of the daily digest say

The sections of the digest are selections of the ranked tasks by due date. The section of the next
seven days is cut at seven tasks, not at seven days, so a task that is due later is listed there
exactly when fewer than seven others come before it.
-/
namespace VelaFlow.Planner

section Selections

variable {settings : Settings} {today : Date} {ranked : List ScoredTask} {scored : ScoredTask}

end Selections

section Sample

end Sample

end VelaFlow.Planner
