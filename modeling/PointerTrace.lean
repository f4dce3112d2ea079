import PointerTrace.Main
import PointerTrace.Proofs.BorrowStack
import PointerTrace.Proofs.AllocationStep
import PointerTrace.Proofs.StoreValidity
import PointerTrace.Proofs.Change
import PointerTrace.Proofs.Execution
import PointerTrace.Proofs.Run
import PointerTrace.Proofs.ReachableStore
import PointerTrace.Proofs.Exclusivity
import PointerTrace.Proofs.SharedReads
import PointerTrace.Proofs.NameResolution
import PointerTrace.Proofs.Progress
import PointerTrace.Proofs.Authority
import PointerTrace.Proofs.StackDiscipline
import PointerTrace.Proofs.ImmutableBinding
import PointerTrace.Proofs.Reborrow
import PointerTrace.Proofs.Refusal
import PointerTrace.Proofs.DirectUse
import PointerTrace.Proofs.Derivation
import PointerTrace.Proofs.ChainPermission
import PointerTrace.Proofs.ErasedProvenance
import PointerTrace.Proofs.Projection
import PointerTrace.Proofs.Relabel
import PointerTrace.Proofs.Mirror
import PointerTrace.Proofs.Noninterference
import PointerTrace.Proofs.Extension
import PointerTrace.Proofs.FaultReport
import PointerTrace.Proofs.Shape
import PointerTrace.Proofs.LastWrite
import PointerTrace.Proofs.IdleTag
import PointerTrace.Proofs.Beside
import PointerTrace.Proofs.UnusedPointer
import PointerTrace.Proofs.Grammar
import PointerTrace.Proofs.Readers
import PointerTrace.Proofs.SegmentReading
import PointerTrace.Proofs.Scanning
import PointerTrace.Proofs.Parsing
import PointerTrace.Proofs.Numerals
import PointerTrace.Proofs.Rendering
import PointerTrace.Proofs.RecordRoundTrip
import PointerTrace.Proofs.GrantFootprint
import PointerTrace.Proofs.FaultCause
import PointerTrace.Proofs.ExitCode
import PointerTrace.Proofs.Unreadable
import PointerTrace.Proofs.NameProblems
import PointerTrace.Proofs.Driving
import PointerTrace.Proofs.Places
import PointerTrace.Proofs.Lexemes
import PointerTrace.Proofs.DisplayedLines
import PointerTrace.Proofs.Respacing
import PointerTrace.Proofs.Renaming
import PointerTrace.Proofs.Temporaries
import PointerTrace.Proofs.JoinedTexts
import PointerTrace.Proofs.SpelledChains
import PointerTrace.Proofs.FreshNames
import PointerTrace.Proofs.AdmissibleRecords
import PointerTrace.Proofs.InterchangeDocument
import PointerTrace.Proofs.TableShape
import PointerTrace.Proofs.SettingsReading
import PointerTrace.Proofs.LineageWalk
import PointerTrace.Proofs.NearestSettings
import PointerTrace.Proofs.SettingsAgreement
import PointerTrace.Proofs.StoreRequests
import PointerTrace.Proofs.StoreParts
