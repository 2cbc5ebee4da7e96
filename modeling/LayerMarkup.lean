import LayerMarkup.Host.Capability
import LayerMarkup.Host.Table
import LayerMarkup.Main
import LayerMarkup.Panel
import LayerMarkup.Snapshot.Markup
import LayerMarkup.Proofs.Classification.Containment
import LayerMarkup.Proofs.Classification.Holders
import LayerMarkup.Proofs.Classification.Settled
import LayerMarkup.Proofs.Classification.Shape
import LayerMarkup.Proofs.Classification.Turns
import LayerMarkup.Proofs.Command.Reports
import LayerMarkup.Proofs.Generation.Export
import LayerMarkup.Proofs.Generation.Hidden
import LayerMarkup.Proofs.Generation.Lookups
import LayerMarkup.Proofs.Generation.Memory
import LayerMarkup.Proofs.Generation.Refusal
import LayerMarkup.Proofs.Generation.Selection
import LayerMarkup.Proofs.Generation.Slots
import LayerMarkup.Proofs.Host.Asked
import LayerMarkup.Proofs.Host.Recency
import LayerMarkup.Proofs.Host.Stores
import LayerMarkup.Proofs.Markup.Attributes
import LayerMarkup.Proofs.Markup.Characters
import LayerMarkup.Proofs.Markup.Gaps
import LayerMarkup.Proofs.Markup.Layout
import LayerMarkup.Proofs.Markup.Parts
import LayerMarkup.Proofs.Markup.Places
import LayerMarkup.Proofs.Markup.Reading
import LayerMarkup.Proofs.Markup.References
import LayerMarkup.Proofs.Markup.Scanning
import LayerMarkup.Proofs.Markup.SlotMarks
import LayerMarkup.Proofs.Markup.Slots
import LayerMarkup.Proofs.Markup.TagStart
import LayerMarkup.Proofs.Name.Letters
import LayerMarkup.Proofs.Name.Settling
import LayerMarkup.Proofs.Name.Words
import LayerMarkup.Proofs.Panel.Replies
import LayerMarkup.Proofs.Property.Clean
import LayerMarkup.Proofs.Property.Collisions
import LayerMarkup.Proofs.Property.RoundTrip
import LayerMarkup.Proofs.Property.Shown
import LayerMarkup.Proofs.Property.Untouched
import LayerMarkup.Proofs.Property.Variants
import LayerMarkup.Proofs.Pruning.Containers
import LayerMarkup.Proofs.Pruning.Contraction
import LayerMarkup.Proofs.Pruning.Grammar
import LayerMarkup.Proofs.Pruning.Settled
import LayerMarkup.Proofs.Pruning.Survival
import LayerMarkup.Proofs.Pruning.Wrapper
import LayerMarkup.Proofs.Snapshot.Carriers
import LayerMarkup.Proofs.Snapshot.Dependence
import LayerMarkup.Proofs.Snapshot.Faults
import LayerMarkup.Proofs.Snapshot.Library
import LayerMarkup.Proofs.Snapshot.Lookups
import LayerMarkup.Proofs.Snapshot.Nulls
import LayerMarkup.Proofs.Snapshot.Outline
import LayerMarkup.Proofs.Snapshot.Owners
import LayerMarkup.Proofs.Snapshot.Reading
import LayerMarkup.Proofs.Snapshot.Rendering
import LayerMarkup.Proofs.Tree.Addresses
