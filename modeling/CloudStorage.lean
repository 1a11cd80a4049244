import CloudStorage.Lib.Runs
import CloudStorage.Proofs.CheckpointCrash
import CloudStorage.Group
import CloudStorage.Proofs.Wire
import CloudStorage.Proofs.Forwarding
import CloudStorage.Proofs.Serving
import CloudStorage.Proofs.RefusedWrite
import CloudStorage.Proofs.AcknowledgedWrite
import CloudStorage.Proofs.SequentialReplication
import CloudStorage.Proofs.Durability
import CloudStorage.Threads
import CloudStorage.Proofs.ConcurrentWrites
import CloudStorage.Master
import CloudStorage.Proofs.StatusText
import CloudStorage.Lib.Leadership
import CloudStorage.Proofs.Election
import CloudStorage.Proofs.ElectionState
import CloudStorage.Cluster
import CloudStorage.Proofs.StatusEffect
import CloudStorage.Proofs.Identity
import CloudStorage.Proofs.ClusterState
import CloudStorage.Proofs.ClusterStep
import CloudStorage.Proofs.SplitBrain
import CloudStorage.Proofs.PrimaryView
import CloudStorage.Connection
import CloudStorage.Proofs.Framing
import CloudStorage.Proofs.ReplayAgain
import CloudStorage.Proofs.PartialMap
import CloudStorage.ClientSlots
import CloudStorage.Proofs.ClientSlots
import CloudStorage.Checkpointing
import CloudStorage.Lib.Checkpoints
import CloudStorage.Proofs.ConcurrentCheckpoint
import CloudStorage.FormText
import CloudStorage.Lib.Dialogue
import CloudStorage.Frontend
import CloudStorage.Proofs.Authorisation
import CloudStorage.Proofs.Credentials
import CloudStorage.Proofs.LoginState
import CloudStorage.Proofs.StorageService
import CloudStorage.Proofs.RowConfinement
import CloudStorage.Proofs.PasswordCommands
import CloudStorage.Proofs.StoredPassword
import CloudStorage.Proofs.FormEncoding
import CloudStorage.Proofs.PasswordPaths
import CloudStorage.Proofs.ClientFields
import CloudStorage.MailServer
import CloudStorage.Proofs.SmtpSession
import CloudStorage.Proofs.MailBody
import CloudStorage.Proofs.MailDelivery
import CloudStorage.RelayQueue
import CloudStorage.Proofs.RelayFile
import CloudStorage.Proofs.RelayLoss
import CloudStorage.Lib.PathTree
import CloudStorage.Proofs.Drive
import CloudStorage.Proofs.DriveRequests
import CloudStorage.Proofs.DriveTree
import CloudStorage.Proofs.FolderMove
import CloudStorage.Proofs.DriveEntries
import CloudStorage.Proofs.Multipart
import CloudStorage.Lib.Turns
import CloudStorage.Dispatcher
import CloudStorage.Proofs.RoundRobin
import CloudStorage.RequestReader
import CloudStorage.Lib.Pieces
import CloudStorage.Proofs.RequestFraming
import CloudStorage.Proofs.RequestHandling
import CloudStorage.Rejoin
import CloudStorage.Proofs.DeadLog
import CloudStorage.Proofs.Catchup
import CloudStorage.Proofs.MixedForward
import CloudStorage.Proofs.RejoinState
import CloudStorage.Proofs.Rejoin
import CloudStorage.Proofs.RejoinedReplica
import CloudStorage.PeerReader
import CloudStorage.Proofs.PeerReader
import CloudStorage.ControlMessages
import CloudStorage.Proofs.ControlMessages
import CloudStorage.AdminConsole
import CloudStorage.Proofs.OwnParameters
import CloudStorage.Proofs.Snapshot
import CloudStorage.Lib.Positions
import CloudStorage.Pages
import CloudStorage.Proofs.MailboxPage
import CloudStorage.Proofs.DrivePage
import CloudStorage.Proofs.FileMove
import CloudStorage.Proofs.FailedMove
import CloudStorage.Proofs.PipelinedLines
import CloudStorage.Proofs.StoredMail
import CloudStorage.Proofs.EmailPage
import CloudStorage.BackendSocket
import CloudStorage.Proofs.ServerInfo
import CloudStorage.Proofs.Failover
import CloudStorage.Proofs.Addresses
import CloudStorage.Proofs.ConsolePages
import CloudStorage.MailReply
import CloudStorage.Proofs.MailReply
import CloudStorage.Lib.OrderedMap
import CloudStorage.LoadBalancer
import CloudStorage.Proofs.LoadBalancer
import CloudStorage.CheckpointTrigger
import CloudStorage.Proofs.CheckpointTrigger
import CloudStorage.Lib.Simulation
import CloudStorage.Proofs.OneCopy
import CloudStorage.Lib.Interleaving
import CloudStorage.Proofs.ConcurrentSessions
import CloudStorage.Proofs.MailConversation
import CloudStorage.Lib.Conversation
import CloudStorage.Proofs.WebMail
import CloudStorage.RelayDelivery
import CloudStorage.Proofs.RelayDelivery
import CloudStorage.Proofs.RelayHistory
import CloudStorage.Proofs.StoredFile
import CloudStorage.Proofs.GroupDurability
import CloudStorage.ConfigFile
import CloudStorage.Proofs.ConfigFile
import CloudStorage.Proofs.Startup
import CloudStorage.AdminPanel
import CloudStorage.Proofs.RemoteControl
import CloudStorage.Proofs.PanelRequests
import CloudStorage.Proofs.AdminPanel
