import TagQuery.Batch
import TagQuery.Elapsed
import TagQuery.Main
import TagQuery.Proofs.Text.Cutting
import TagQuery.Selector.Printer
import TagQuery.Proofs.Markup.Balance
import TagQuery.Proofs.Markup.Opening
import TagQuery.Proofs.Markup.Tiling
import TagQuery.Proofs.Markup.Descent
import TagQuery.Proofs.Markup.Forest
import TagQuery.Proofs.Markup.Quiet
import TagQuery.Proofs.Markup.Fragments
import TagQuery.Proofs.Markup.Preorder
import TagQuery.Proofs.Markup.Transparency
import TagQuery.Proofs.Selector.Grammar
import TagQuery.Proofs.Selector.Readers
import TagQuery.Proofs.Selector.Links
import TagQuery.Proofs.Selector.Acceptance
import TagQuery.Proofs.Text.NameMap
import TagQuery.Proofs.Text.Escapes
import TagQuery.Proofs.Selector.Rendering
import TagQuery.Proofs.Selector.RoundTrip
import TagQuery.Proofs.Batch.Gathering
import TagQuery.Proofs.Markup.Enclosure
import TagQuery.Proofs.Markup.AttributeReading
import TagQuery.Proofs.Selector.Findings
import TagQuery.Proofs.Offset.Extraction
import TagQuery.Proofs.Text.Case
import TagQuery.Proofs.Markup.Case
import TagQuery.Proofs.Markup.Occurrence
import TagQuery.Proofs.Markup.SelfClosing
import TagQuery.Proofs.Selector.Composition
import TagQuery.Proofs.Selector.Search
import TagQuery.Proofs.Markup.Standalone
import TagQuery.Proofs.Markup.Spacing
import TagQuery.Proofs.Selector.Children
import TagQuery.Proofs.Batch.Refusal
import TagQuery.Proofs.Selector.Chains
import TagQuery.Proofs.Markup.AttributeForms
import TagQuery.Proofs.Markup.Closing
import TagQuery.Proofs.Markup.AttributeMap
import TagQuery.Proofs.Selector.Qualifiers
import TagQuery.Proofs.Offset.Window
