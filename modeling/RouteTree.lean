import RouteTree.Inspect
import RouteTree.Server.Error
import RouteTree.Control
import RouteTree.Main
import RouteTree.Proofs.GuardOrder
import RouteTree.Proofs.RecordedReply
import RouteTree.Proofs.Compilation
import RouteTree.Proofs.EntryFields
import RouteTree.Proofs.InstanceIdentity
import RouteTree.Proofs.FirstDefect
import RouteTree.Proofs.InheritedRules
import RouteTree.Proofs.Violation
import RouteTree.Proofs.Admission
import RouteTree.Proofs.PathText
import RouteTree.Proofs.ServableTable
import RouteTree.Proofs.TableCheck
import RouteTree.Proofs.UnhandledFailure
import RouteTree.Proofs.AcceptedTable
import RouteTree.Proofs.SeparateStates
import RouteTree.Proofs.PlainPath
import RouteTree.Proofs.PathCollision
import RouteTree.Proofs.RouterAssembly
import RouteTree.Proofs.BestSite
import RouteTree.Proofs.MatchingOrder
import RouteTree.Proofs.SegmentMatch
import RouteTree.Proofs.PlainOctets
import RouteTree.Proofs.LiveRoutes
import RouteTree.Proofs.UsersService
import RouteTree.Proofs.UsersAnswers
import RouteTree.Proofs.UsersAuthorization
import RouteTree.Proofs.UsersLedger
import RouteTree.Proofs.UsersHistory
import RouteTree.Proofs.DispatchCourse
import RouteTree.Proofs.FailureAnswer
import RouteTree.Proofs.ResponseOrigin
import RouteTree.Proofs.RequestIds
import RouteTree.Proofs.AssembledTable
import RouteTree.Proofs.RequestCounts
import RouteTree.Proofs.ControlHistory
import RouteTree.Proofs.PathReading
import RouteTree.Proofs.NestedGroups
import RouteTree.Proofs.ContextPath
import RouteTree.Proofs.BranchPath
import RouteTree.Proofs.Utf8RoundTrip
import RouteTree.Proofs.JsonScalars
import RouteTree.Proofs.JsonRoundTrip
import RouteTree.Proofs.EchoedBody
import RouteTree.Proofs.Utf8Order
import RouteTree.Proofs.LeastViolation
import RouteTree.Proofs.IntegerText
import RouteTree.Proofs.UsersLookup
import RouteTree.Proofs.UuidForms
import RouteTree.Proofs.WatchWaits
import RouteTree.Proofs.ShutdownRuns
import RouteTree.Proofs.ConfigReading
import RouteTree.Proofs.ConfigProblems
import RouteTree.Proofs.LoadedConfig
import RouteTree.Proofs.DirectiveReading
import RouteTree.Proofs.ConfiguredFilter
