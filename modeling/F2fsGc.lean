import F2fsGc.Segment
import F2fsGc.Policy
import F2fsGc.CostBenefit
import F2fsGc.Stat
import F2fsGc.Victim.Scan
import F2fsGc.Victim.Select
import F2fsGc.Victim.MinCost
import F2fsGc.Victim.Runs
import F2fsGc.NodeOffset
import F2fsGc.Gc.Trace
import F2fsGc.Gc.Evacuate
import F2fsGc.Gc.DataMove
import F2fsGc.Gc.Collect
import F2fsGc.Gc.NodeCheck
import F2fsGc.Gc.Refs
import F2fsGc.Gc.Thread
import F2fsGc.Gc.Locks
import F2fsGc.Gc.Progress
import F2fsGc.Gc.System
import F2fsGc.Gc.Scope
import F2fsGc.StatList
import F2fsGc.StatRace
import F2fsGc.Worker
