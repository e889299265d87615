import Interception.Act
import Interception.Advice
import Interception.Advice.Codec
import Interception.Advice.Registry
import Interception.Ancestry
import Interception.Capability.Closure
import Interception.Capability.Memo
import Interception.Capability.NameSet
import Interception.Catalog
import Interception.Catalog.Manifest
import Interception.Container
import Interception.Container.Pool
import Interception.Declaration
import Interception.Declaration.Codec
import Interception.Fault
import Interception.Gate
import Interception.Hint
import Interception.Json
import Interception.Json.Printer
import Interception.Json.Reader
import Interception.Json.Record
import Interception.Log
import Interception.Name
import Interception.Proofs.AncestrySearch
import Interception.Proofs.Correspondence
import Interception.Proofs.GateCorrespondence
import Interception.Proofs.GateRun
import Interception.Proofs.Watched
import Interception.Proofs.WovenConstructor
import Interception.Proofs.AdviceTargets
import Interception.Proofs.WovenMembers
import Interception.Proxy.Constructor
import Interception.Proxy.Dispatch
import Interception.Proxy.Layout
import Interception.Proxy.Layout.Lemmas
import Interception.Proxy.SourceFile
import Interception.Proxy.Support
import Interception.Proxy.Weave
import Interception.Settings
import Interception.Settings.Codec
import Interception.Text.Alphanumeric
import Interception.Text.Blank
import Interception.Text.Brace
import Interception.Text.Case
import Interception.Text.Cut
import Interception.Version
import Interception.Web.Callable
import Interception.Web.Message
import Interception.Web.Pipeline
import Interception.Proofs.EffectiveConstructor
import Interception.Proofs.MemoTransparency
import Interception.Proofs.MemoRun
import Interception.Proofs.CapabilityClosure
import Interception.Proofs.LostFaults
import Interception.Proofs.HintTokens
import Interception.Proofs.LeadingClasses
import Interception.Proofs.Requalification
import Interception.Proofs.NormalDeclarations
import Interception.Proofs.WovenNames
import Interception.Proofs.PrintedBodies
import Interception.Proofs.SelfReferences
import Interception.Proofs.WovenShape
import Interception.Proofs.SettingsInfluence
import Interception.Proofs.PrintedValues
import Interception.Proofs.RestoredRecords
import Interception.Proofs.MarkerSpelling
import Interception.Proofs.ByteOrder
import Interception.Proofs.FirstCut
import Interception.Proofs.AdviceOrder
import Interception.Proofs.AncestryChain
import Interception.Proofs.ActionParameters
import Interception.Proofs.PipelineTour
import Interception.Proofs.GateInPipeline
import Interception.Proofs.AdviceChanges
import Interception.Proofs.LastSuch
import Interception.Proofs.AdviceRepeats
import Interception.Proofs.LoadedManifests
import Interception.Proofs.WeavableTypes
import Interception.Proofs.CapturedVariables
import Interception.Proofs.PenText
import Interception.Proofs.LegibleParameters
import Interception.Proofs.HandlerReferences
import Interception.Proofs.WrittenVersions
import Interception.Proofs.ContainerUse
import Interception.Proofs.SearchCalls
import Interception.Proofs.HintRenaming
