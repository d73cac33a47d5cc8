import Hotplug.Main
import Hotplug.Notification.Consumer
import Hotplug.Shutdown.Desk
import Hotplug.World.Occurrence
import Hotplug.Proofs.Outline
import Hotplug.Proofs.Conduct
import Hotplug.Proofs.Frame
import Hotplug.Proofs.Orderly
import Hotplug.Proofs.Steps.Coordinator
import Hotplug.Proofs.Steps.Session
import Hotplug.Proofs.Steps.Library
import Hotplug.Proofs.Steps
import Hotplug.Proofs.Reach
import Hotplug.Proofs.Clock
import Hotplug.Proofs.Steering
import Hotplug.Proofs.Course
import Hotplug.Proofs.Calls
import Hotplug.Proofs.Graceful
import Hotplug.Proofs.Deadlines
import Hotplug.Proofs.Causes
import Hotplug.Proofs.Scene
import Hotplug.Proofs.Scene.Laws
import Hotplug.Proofs.Scene.Moves
import Hotplug.Proofs.Scene.Steps
import Hotplug.Proofs.Scene.Company
import Hotplug.Proofs.Appearances
import Hotplug.Proofs.Story
import Hotplug.Proofs.StateMachine
import Hotplug.Proofs.Teardown
import Hotplug.Proofs.Healthy
import Hotplug.Proofs.Remaining
import Hotplug.Proofs.Closing
import Hotplug.Proofs.Progress
import Hotplug.Proofs.Completion
import Hotplug.Proofs.Traffic
import Hotplug.Proofs.Traffic.Moves
import Hotplug.Proofs.Traffic.Ledger
import Hotplug.Proofs.Releases
import Hotplug.Proofs.Deliveries
import Hotplug.Proofs.Dismissal
import Hotplug.Proofs.Noticing
import Hotplug.Proofs.Outstanding
import Hotplug.Proofs.Watchdogs
import Hotplug.Proofs.Aftermath
import Hotplug.Proofs.Turns
import Hotplug.Proofs.Rest
import Hotplug.Proofs.Veil
import Hotplug.Proofs.Erasure
import Hotplug.Proofs.Erasure.Quiet
import Hotplug.Proofs.Draining
import Hotplug.Proofs.Matches
import Hotplug.Proofs.Undisturbed
import Hotplug.Proofs.Erasure.Blind
import Hotplug.Proofs.Sightless
import Hotplug.Proofs.Foretelling
import Hotplug.Proofs.Regardless
import Hotplug.Proofs.Docket
import Hotplug.Proofs.Docket.Standing
import Hotplug.Proofs.Docket.Closing
import Hotplug.Proofs.Verdict
import Hotplug.Proofs.Escalation
import Hotplug.Proofs.QuitRequests
import Hotplug.Proofs.Broadcast
import Hotplug.Proofs.Polling.Desk
import Hotplug.Proofs.Polling
import Hotplug.Proofs.Metrics.Upkeep
import Hotplug.Proofs.Channel
import Hotplug.Proofs.Tallies
import Hotplug.Proofs.Metrics
import Hotplug.Proofs.ByteOrder
import Hotplug.Proofs.Flaws
import Hotplug.Proofs.Loopback
import Hotplug.Proofs.Keyed
import Hotplug.Proofs.OptionTables
import Hotplug.Proofs.Overlay
import Hotplug.Proofs.Rows
import Hotplug.Proofs.DistinctKeys
import Hotplug.Proofs.Reading
import Hotplug.Proofs.Merging
import Hotplug.Proofs.Edits
import Hotplug.Proofs.Positions
import Hotplug.Proofs.Options
import Hotplug.Proofs.Printed
import Hotplug.Proofs.Startup
import Hotplug.Proofs.AbortTimers.Once
import Hotplug.Proofs.AbortTimers.Desk
