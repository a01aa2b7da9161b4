import GuardedProxy.Description.Printer
import GuardedProxy.FileTree
import GuardedProxy.Main
import GuardedProxy.Proofs.BodyLayout
import GuardedProxy.Proofs.Text
import GuardedProxy.Proofs.Execution
import GuardedProxy.Proofs.ClauseOutcome
import GuardedProxy.Proofs.SegmentCut
import GuardedProxy.Proofs.SnapshotOrder
import GuardedProxy.Proofs.BalancedText
import GuardedProxy.Proofs.ReferenceShape
import GuardedProxy.Proofs.ResultFree
import GuardedProxy.Proofs.ArgumentSplit
import GuardedProxy.Proofs.TypeText
import GuardedProxy.Proofs.TypedReference
import GuardedProxy.Proofs.ReferenceRewrite
import GuardedProxy.Proofs.ClauseCall
import GuardedProxy.Proofs.BodyAccess
import GuardedProxy.Proofs.LocalNames
import GuardedProxy.Proofs.Literal
import GuardedProxy.Proofs.ArgumentText
import GuardedProxy.Proofs.InvocationText
import GuardedProxy.Proofs.SegmentLiterals
import GuardedProxy.Proofs.ConditionLiterals
import GuardedProxy.Proofs.ClassContent
import GuardedProxy.Proofs.CompiledDescription
import GuardedProxy.Proofs.DescriptionText
import GuardedProxy.Proofs.ClassNesting
import GuardedProxy.Proofs.PlainClass
import GuardedProxy.Proofs.ClassOutline
import GuardedProxy.Proofs.EffectiveClauses
import GuardedProxy.Proofs.ClauseSpelling
import GuardedProxy.Proofs.WriterReuse
import GuardedProxy.Proofs.OldResult
import GuardedProxy.Proofs.ByteSpan
import GuardedProxy.Proofs.SegmentPlaces
import GuardedProxy.Proofs.ReferencePlaces
import GuardedProxy.Proofs.RepeatedRewrite
import GuardedProxy.Proofs.ClauseGuard
import GuardedProxy.Proofs.FailureMessage
import GuardedProxy.Proofs.BracketNesting
import GuardedProxy.Proofs.PathParts
import GuardedProxy.Proofs.OutputFile
import GuardedProxy.Proofs.OutputDirectory
import GuardedProxy.Proofs.BodyRecord
import GuardedProxy.Proofs.BracketCount
import GuardedProxy.Proofs.OutputPair
import GuardedProxy.Proofs.TextMarks
import GuardedProxy.Proofs.LayeredReading
import GuardedProxy.Proofs.Lists
