import TankGauge.Main
import TankGauge.Rehearsal
import TankGauge.Soak
import TankGauge.Proofs.Run
import TankGauge.Proofs.Effects
import TankGauge.Proofs.Journal
import TankGauge.Proofs.Callbacks
import TankGauge.Proofs.Responses
import TankGauge.Proofs.Happenings
import TankGauge.Proofs.WalkTimers
import TankGauge.Proofs.Alike
import TankGauge.Proofs.TwoFlags
import TankGauge.Proofs.AlarmFreeze
import TankGauge.Proofs.RetainedView
import TankGauge.Proofs.Actions
import TankGauge.Proofs.Link
import TankGauge.Proofs.Reconnection
import TankGauge.Proofs.Sessions
import TankGauge.Proofs.Outbound
import TankGauge.Proofs.Drain
import TankGauge.Proofs.Tank
import TankGauge.Proofs.Independence
import TankGauge.Proofs.Refusals
import TankGauge.Proofs.Chronicle
import TankGauge.Proofs.Pace
import TankGauge.Proofs.Subscriptions
import TankGauge.Proofs.Publications
import TankGauge.Proofs.Retries
import TankGauge.Proofs.Spelling
import TankGauge.Proofs.Layout
import TankGauge.Proofs.Printing
import TankGauge.Proofs.Documents
import TankGauge.Proofs.Merging
import TankGauge.Proofs.PartialDocuments
import TankGauge.Proofs.Agenda
import TankGauge.Proofs.Firings
import TankGauge.Proofs.WorkerDrain
import TankGauge.Proofs.Advance
import TankGauge.Proofs.WalkCourse
import TankGauge.Proofs.WalkUnderway
import TankGauge.Proofs.StaleFirings
import TankGauge.Proofs.Messages
import TankGauge.Proofs.SessionNews
import TankGauge.Proofs.ClientIdentity
import TankGauge.Proofs.Replay
import TankGauge.Proofs.SoakSafety
import TankGauge.Proofs.Announcements
import TankGauge.Proofs.Truncation
import TankGauge.Proofs.EffectList
