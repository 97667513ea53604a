import Gatherlink.Config.ServiceIds
import Gatherlink.Dataplane.RejectedFragments
import Gatherlink.Dataplane.RelayLimits
import Gatherlink.Engine.AbortedDrain
import Gatherlink.Engine.Atomicity
import Gatherlink.Engine.FairDrain
import Gatherlink.Engine.Isolation
import Gatherlink.Engine.ItemSequences
import Gatherlink.Engine.NeedlessHold
import Gatherlink.Engine.PathMtu
import Gatherlink.Engine.PlanIsolation
import Gatherlink.Engine.Progress
import Gatherlink.Engine.RelayNonces
import Gatherlink.Engine.Stickiness
import Gatherlink.Metaband.Agreement
import Gatherlink.Runtime.RekeyRuns
import Gatherlink.Scheduling.FailSoft
import Gatherlink.Scheduling.ServicePaths
import Gatherlink.Security.HandshakeAgreement
import Gatherlink.Security.Replay
import Gatherlink.Time.Offset
import Gatherlink.TimeHelper.SystemTime
