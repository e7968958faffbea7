import AnsibleStaging.Main
import AnsibleStaging.Rehearsal.Program
import AnsibleStaging.Proofs.Exchanges
import AnsibleStaging.Proofs.PathAncestors
import AnsibleStaging.Proofs.ConnectPlan
import AnsibleStaging.Proofs.ConnectCourse
import AnsibleStaging.Proofs.ConnectOrder
import AnsibleStaging.Proofs.Cancellation
import AnsibleStaging.Proofs.InMemory
import AnsibleStaging.Proofs.StagedFiles
import AnsibleStaging.Proofs.TreeGrowth
import AnsibleStaging.Proofs.World
import AnsibleStaging.Proofs.Granting
import AnsibleStaging.Proofs.Repetition
import AnsibleStaging.Proofs.Retry
import AnsibleStaging.Proofs.TreeShape
import AnsibleStaging.Proofs.ConnectCalls
import AnsibleStaging.Proofs.Containment
import AnsibleStaging.Proofs.Turns
import AnsibleStaging.Proofs.Neighbours
import AnsibleStaging.Proofs.Outlines
import AnsibleStaging.Proofs.TwoRuns
import AnsibleStaging.Proofs.Secrecy
import AnsibleStaging.Proofs.Places
import AnsibleStaging.Proofs.BoundRunner
import AnsibleStaging.Proofs.AcceptedConfig
import AnsibleStaging.Proofs.RoundTrip
import AnsibleStaging.Proofs.LastEntry
import AnsibleStaging.Proofs.Requests
import AnsibleStaging.Proofs.TrackedConfig
import AnsibleStaging.Proofs.JsonText
import AnsibleStaging.Proofs.CommandWords
import AnsibleStaging.Proofs.HostPaths
import AnsibleStaging.Proofs.Views
import AnsibleStaging.Proofs.HostViews
import AnsibleStaging.Proofs.HostFiles
import AnsibleStaging.Proofs.MemoryDouble
import AnsibleStaging.Proofs.HostNames
import AnsibleStaging.Proofs.Escapes
import AnsibleStaging.Proofs.LoginLines
import AnsibleStaging.Proofs.ConfigMeaning
import AnsibleStaging.Proofs.EntryFold
import AnsibleStaging.Proofs.StagedNames
import AnsibleStaging.Proofs.FaultOverlay
import AnsibleStaging.Proofs.GitPrecedence
import AnsibleStaging.Proofs.SecretStores
import AnsibleStaging.Proofs.BrokenWrites
