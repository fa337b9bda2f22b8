import CardPress.Main
import CardPress.Proofs.Composition.Order
import CardPress.Proofs.Composition.Topological
import CardPress.Proofs.Composition.Unshared
import CardPress.Proofs.Generation.Resolved
import CardPress.Proofs.Generation.Drawing
import CardPress.Proofs.Generation.Bounds
import CardPress.Proofs.Composition.Size
import CardPress.Proofs.Generation.Priority
import CardPress.Proofs.Generation.Calm
import CardPress.Proofs.Capabilities
import CardPress.Proofs.Generation.Agreement
import CardPress.Proofs.Generation.WorkingImage
import CardPress.Proofs.Generation.GlobalCache
import CardPress.Proofs.Generation.Isolation
import CardPress.Proofs.Generation.Frame
import CardPress.Proofs.Generation.Overlay
import CardPress.Proofs.Generation.CacheEntries
import CardPress.Proofs.Generation.BoundKeys
import CardPress.Proofs.Generation.Ending
import CardPress.Proofs.Deck.Registration
import CardPress.Proofs.Deck.Entries
import CardPress.Proofs.Step.CanvasSize
import CardPress.Proofs.Deck.Validation
import CardPress.Proofs.Value.PlainFaults
import CardPress.Proofs.Generation.TemplateFaults
import CardPress.Proofs.Generation.Alarmed
import CardPress.Proofs.Deck.Soundness
import CardPress.Proofs.Generation.View
import CardPress.Proofs.Generation.Inlining
import CardPress.Proofs.Composition.Serials
import CardPress.Proofs.Generation.Serials
import CardPress.Proofs.Generation.Noting
import CardPress.Proofs.Deck.Turns
import CardPress.Proofs.Deck.Permutation
import CardPress.Proofs.Generation.FailingStep
import CardPress.Proofs.Generation.LargerPool
import CardPress.Proofs.Generation.Logging
import CardPress.Proofs.Number.Doubles
import CardPress.Proofs.Number.Decimals
import CardPress.Proofs.Json.Numbers
import CardPress.Proofs.Json.Strings
import CardPress.Proofs.Dict
import CardPress.Proofs.Json.Canonical
import CardPress.Proofs.Json.Reader
import CardPress.Proofs.Value.Loaded
import CardPress.Proofs.Digest
import CardPress.Proofs.Card.Definition
import CardPress.Proofs.Card.Digest
import CardPress.Proofs.Generation.PlainData
import CardPress.Proofs.Generation.Rewriting
import CardPress.Proofs.Generation.CacheChains
import CardPress.Proofs.Generation.EagerWrites
import CardPress.Proofs.Generation.EarlyEnd
import CardPress.Proofs.Composition.Faults
import CardPress.Proofs.Value.Equality
import CardPress.Proofs.Calc.Comparisons
import CardPress.Proofs.Value.Documents
import CardPress.Proofs.Text.Trimming
import CardPress.Proofs.Calc.RoundTrip
import CardPress.Proofs.Calc.Formatting
import CardPress.Proofs.Text.Filename
import CardPress.Proofs.Step.Colour
import CardPress.Proofs.Generation.Copies
import CardPress.Proofs.Files.Directories
import CardPress.Proofs.Step.Saving
import CardPress.Proofs.Value.Naturals
import CardPress.Proofs.Font.Stroke
import CardPress.Proofs.Canvas.Bytes
import CardPress.Proofs.Calc.Extremes
import CardPress.Proofs.Calc.Integers
import CardPress.Proofs.Calc.Repetition
import CardPress.Proofs.Calc.Indexing
import CardPress.Proofs.Number.Literals
import CardPress.Proofs.Calc.Conversions
import CardPress.Proofs.Canvas.Crop
import CardPress.Proofs.Capabilities.Extensions
import CardPress.Proofs.Deck.Attempts
import CardPress.Proofs.Calc.Places
