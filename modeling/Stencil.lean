import Stencil.Main
import Stencil.Proofs.Program
import Stencil.Proofs.ContextLaw
import Stencil.Proofs.Receiver
import Stencil.Proofs.Frame
import Stencil.Proofs.Machine
import Stencil.Proofs.Append
import Stencil.Proofs.Reach
import Stencil.Proofs.Sequence
import Stencil.Proofs.Spelling
import Stencil.Proofs.Tree
import Stencil.Proofs.Grammar
import Stencil.Proofs.Margin
import Stencil.Proofs.Reading
import Stencil.Proofs.Effect
import Stencil.Proofs.Slots
import Stencil.Proofs.Trimmed
import Stencil.Proofs.Comments
import Stencil.Proofs.Sheet
import Stencil.Proofs.Chain
import Stencil.Proofs.Siblings
import Stencil.Proofs.MarkerRanges
import Stencil.Proofs.SlotRanges
import Stencil.Proofs.RenderRanges
import Stencil.Proofs.Partition
import Stencil.Proofs.Isolation
import Stencil.Proofs.Stack
import Stencil.Proofs.Pieces
import Stencil.Proofs.Placing
import Stencil.Proofs.Injection
import Stencil.Proofs.Registry
import Stencil.Proofs.Pages
import Stencil.Proofs.Dependents
import Stencil.Proofs.Dependencies
import Stencil.Proofs.Noting
import Stencil.Proofs.Steering
import Stencil.Proofs.Runaway
import Stencil.Proofs.Refusals
import Stencil.Proofs.Escaping
import Stencil.Proofs.HeadElements
import Stencil.Proofs.Lookup
import Stencil.Proofs.Lens
import Stencil.Proofs.Occurrences
import Stencil.Proofs.Balanced
import Stencil.Proofs.BranchParts
import Stencil.Proofs.Pipeline
import Stencil.Proofs.AllOrNothing
import Stencil.Proofs.Unwrapped
import Stencil.Proofs.Tokens
import Stencil.Proofs.Sections
import Stencil.Proofs.OptionLists
import Stencil.Proofs.Order
import Stencil.Proofs.LooseEquality
import Stencil.Proofs.Rounding
import Stencil.Proofs.Integers
import Stencil.Proofs.CleanPaths
import Stencil.Proofs.QueryGroups
import Stencil.Proofs.IndependentAssets
import Stencil.Proofs.Slicing
import Stencil.Proofs.ChildBodies
