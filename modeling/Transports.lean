import Transports.Main
import Transports.Handle.Pool
import Transports.Proofs.Detection.Search
import Transports.Proofs.Capability.Complete
import Transports.Proofs.Detection.FirstFailure
import Transports.Proofs.Declaration.Names
import Transports.Proofs.Detection.Isolation
import Transports.Proofs.Resolver.Procedure
import Transports.Proofs.Resolver.Reached
import Transports.Proofs.Resolver.AtMostOnce
import Transports.Proofs.Resolver.Alone
import Transports.Proofs.Resolver.OrderIndependence
import Transports.Proofs.Resolver.Gate
import Transports.Proofs.Resolver.Preference
import Transports.Proofs.Capability.Accessors
import Transports.Proofs.Detection.Origin
import Transports.Proofs.Resolver.Origin
import Transports.Proofs.Resolver.OwnNames
import Transports.Proofs.Directory.Insertions
import Transports.Proofs.Declaration.BuiltIn
import Transports.Proofs.Detection.Event
import Transports.Proofs.LoopGroup.Fleet
import Transports.Proofs.Resolver.Building
import Transports.Proofs.Resolver.Log
import Transports.Proofs.Resolver.NamedPreference
import Transports.Proofs.Report.Native
import Transports.Proofs.Versions.Conflicts
import Transports.Proofs.Capability.AllOrNothing
import Transports.Proofs.Failure.Stripping
import Transports.Proofs.LoopGroup.Construction
import Transports.Proofs.LoopGroup.Turns
import Transports.Proofs.Transport.Grammar
import Transports.Proofs.Settings.Agreement
import Transports.Proofs.Directory.LastInsertion
import Transports.Proofs.ThreadFactory.Names
import Transports.Proofs.Handle.Families
import Transports.Proofs.Handle.SimpleName
