import CallContracts.Arguments
import CallContracts.Binary64
import CallContracts.Blame
import CallContracts.Call.Guard
import CallContracts.Call.Routine
import CallContracts.Call.Sequence
import CallContracts.Condition
import CallContracts.Construction
import CallContracts.Contract
import CallContracts.Decimal.Layout
import CallContracts.Decimal.Shortest
import CallContracts.Declaration.Basic
import CallContracts.Declaration.Check
import CallContracts.Declaration.Parse
import CallContracts.Declaration.Token
import CallContracts.Enforcement
import CallContracts.Inspect
import CallContracts.Scope
import CallContracts.Signature
import CallContracts.Text.Blank
import CallContracts.Text.Joined
import CallContracts.Text.Offset
import CallContracts.Text.Quoted
import CallContracts.Text.Unprintable
import CallContracts.Ty
import CallContracts.Value.Basic
import CallContracts.Value.Render
import CallContracts.Violation
import CallContracts.Proofs.Acceptance
import CallContracts.Proofs.AddedDeclarations
import CallContracts.Proofs.Agreement
import CallContracts.Proofs.CheckedArguments
import CallContracts.Proofs.CheckedRun
import CallContracts.Proofs.ContainerKeys
import CallContracts.Proofs.DistinctValues
import CallContracts.Proofs.Escapes
import CallContracts.Proofs.FieldFilling
import CallContracts.Proofs.Grammar
import CallContracts.Proofs.GuardedCall
import CallContracts.Proofs.LatestDefinition
import CallContracts.Proofs.NestedAbsence
import CallContracts.Proofs.Parsing
import CallContracts.Proofs.Reading
import CallContracts.Proofs.RenderedText
import CallContracts.Proofs.Rendering
import CallContracts.Proofs.Resolution
import CallContracts.Proofs.Rewrapping
import CallContracts.Proofs.ScanLoop
import CallContracts.Proofs.ScopeHistory
import CallContracts.Proofs.SoundConstruction
import CallContracts.Proofs.Spelling
import CallContracts.Proofs.Stability
import CallContracts.Proofs.Subtyping
import CallContracts.Proofs.Tiling
import CallContracts.Proofs.ValueEquality
import CallContracts.Proofs.ViablePrefix
import CallContracts.Proofs.FailureCauses
import CallContracts.Proofs.FailureTable
import CallContracts.Proofs.OffenderReport
import CallContracts.Proofs.UndefinedNames
import CallContracts.Proofs.ArgumentPairing
import CallContracts.Proofs.Meaning
import CallContracts.Proofs.UnionShape
import CallContracts.Proofs.EqualValues
import CallContracts.Proofs.SubtypeSubstitution
import CallContracts.Proofs.Widening
import CallContracts.Proofs.ClassHierarchy
import CallContracts.Proofs.PartialEquality
import CallContracts.Proofs.EmptyBrackets
import CallContracts.Proofs.SetConstruction
