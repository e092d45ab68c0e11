import Duskcue.ViewerCapacity
import Duskcue.EncoderCapacity
import Duskcue.ControlGraph
import Duskcue.RetentionAccounting
import Duskcue.InstanceFencing
import Duskcue.EventReplay
import Duskcue.DeviceLinkingSafety
import Duskcue.InvitationLaw
import Duskcue.ReadyPlaylists
import Duskcue.ScanHealth
import Duskcue.PlaySessionLaw
import Duskcue.DownloadQuota
import Duskcue.ParentUnlock
import Duskcue.PrunePass
import Duskcue.DecisionLimits
import Duskcue.IntentIdentity
import Duskcue.OwnerDeadline
import Duskcue.ResponseDelivery
import Duskcue.SourceOriginProofs
import Duskcue.ConditionStructure
import Duskcue.CreditSignals
import Duskcue.RecurringSegments
import Duskcue.SubtitleOffsets
import Duskcue.ProgrammeMarks
import Duskcue.EntityTags
import Duskcue.TaskTimes
import Duskcue.Storyboards
import Duskcue.Authorization
import Duskcue.OwnerLockout
import Duskcue.ReauthCodes
import Duskcue.OfflineEvents
import Duskcue.OfflineMerge
import Duskcue.PatternRegex
import Duskcue.SeriesScan
import Duskcue.DownloadRanges
import Duskcue.EventFraming
import Duskcue.CursorPager
import Duskcue.NotificationStatus
import Duskcue.BackupHistory
import Duskcue.PackageFiles
import Duskcue.CollectionContents
import Duskcue.CatalogPublication
import Duskcue.CheckpointOrder
import Duskcue.RecoveryBudget
import Duskcue.RowLives
