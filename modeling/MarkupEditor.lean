import MarkupEditor.Editor.Grid
import MarkupEditor.Main
import MarkupEditor.Runs.Lemmas
import MarkupEditor.Proofs.Markup.Matches
import MarkupEditor.Proofs.Markup.Precedence
import MarkupEditor.Proofs.Runs.Slice
import MarkupEditor.Proofs.Runs.Assignment
import MarkupEditor.Proofs.Runs.Lookup
import MarkupEditor.Proofs.Runs.Refinement
import MarkupEditor.Proofs.Runs.History
import MarkupEditor.Proofs.Runs.Uniqueness
import MarkupEditor.Proofs.Session.Effect
import MarkupEditor.Proofs.Session.Invariant
import MarkupEditor.Proofs.Buffer.Consistent
import MarkupEditor.Proofs.Buffer.LayeredPass
import MarkupEditor.Proofs.Buffer.Account
import MarkupEditor.Proofs.Session.Reports
import MarkupEditor.Proofs.Runs.Stored
import MarkupEditor.Proofs.Buffer.PassAttributes
import MarkupEditor.Proofs.Buffer.Mutation
import MarkupEditor.Proofs.Session.Reached
import MarkupEditor.Proofs.Session.Nesting
import MarkupEditor.Proofs.Buffer.Beneath
import MarkupEditor.Proofs.Session.Edits
import MarkupEditor.Proofs.Session.Passive
import MarkupEditor.Proofs.Session.Batch
import MarkupEditor.Proofs.Buffer.Unstyled
import MarkupEditor.Proofs.Session.Rebuilt
import MarkupEditor.Proofs.Session.Safety
import MarkupEditor.Proofs.Color.Hex
import MarkupEditor.Proofs.Session.Refusals
import MarkupEditor.Proofs.Session.Silent
import MarkupEditor.Proofs.Session.Protocol
import MarkupEditor.Proofs.Session.Course
import MarkupEditor.Proofs.Text.Caret
import MarkupEditor.Proofs.Editor.Grid
import MarkupEditor.Proofs.Editor.Edited
import MarkupEditor.Proofs.Editor.Keys
import MarkupEditor.Proofs.Editor.Attended
import MarkupEditor.Proofs.Editor.Unsaved
import MarkupEditor.Proofs.Markup.Tokens
import MarkupEditor.Proofs.Session.TokenColors
import MarkupEditor.Proofs.Session.Replacement
import MarkupEditor.Proofs.Buffer.Tinted
import MarkupEditor.Proofs.Terminal.ColorPairs
import MarkupEditor.Proofs.Terminal.Device
import MarkupEditor.Proofs.Value.Groups
import MarkupEditor.Proofs.Editor.Segments
import MarkupEditor.Proofs.Editor.Painting
import MarkupEditor.Proofs.Text.Extent
import MarkupEditor.Proofs.Editor.CodeView
import MarkupEditor.Proofs.Editor.Ready
import MarkupEditor.Proofs.Storage.Disk
import MarkupEditor.Proofs.Editor.Operations
import MarkupEditor.Proofs.Editor.Faultless
import MarkupEditor.Proofs.Editor.VisibleText
import MarkupEditor.Proofs.Markup.Search
import MarkupEditor.Proofs.Markup.TagSpans
import MarkupEditor.Proofs.Markup.CommentSpans
import MarkupEditor.Proofs.Markup.QuotedSpans
import MarkupEditor.Proofs.Markup.Isolation
import MarkupEditor.Proofs.Runs.Unchanged
import MarkupEditor.Proofs.Session.Repeated
import MarkupEditor.Proofs.Session.Commuting
import MarkupEditor.Proofs.Session.Undone
import MarkupEditor.Proofs.Editor.Typed
import MarkupEditor.Proofs.Runs.EffectiveRange
import MarkupEditor.Proofs.Runs.Comparison
import MarkupEditor.Proofs.Text.Position
import MarkupEditor.Proofs.Editor.Drawn
import MarkupEditor.Proofs.Editor.Gutter
import MarkupEditor.Proofs.Editor.CursorCell
import MarkupEditor.Proofs.Editor.Refreshed
import MarkupEditor.Proofs.Storage.Utf8
import MarkupEditor.Proofs.Storage.TextFile
import MarkupEditor.Proofs.Storage.Files
import MarkupEditor.Proofs.Editor.Reloaded
import MarkupEditor.Proofs.Color.Spelling
import MarkupEditor.Proofs.Terminal.Allotment
import MarkupEditor.Proofs.Session.Accumulated
