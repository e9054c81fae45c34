import CommentTags.Unicode.Property
import CommentTags.View.Highlight
import CommentTags.View.Navigation
import CommentTags.CommandLine
import CommentTags.Proofs.Scanner.History
import CommentTags.Proofs.Scanner.Replay
import CommentTags.Proofs.Scanner.Places
import CommentTags.Proofs.Scanner.Concatenation
import CommentTags.Proofs.Tag.Custom
import CommentTags.Proofs.Workspace.Change
import CommentTags.Proofs.Scanner.AfterClose
import CommentTags.Proofs.Scanner.Accounts
import CommentTags.Proofs.View.Listing
import CommentTags.Proofs.View.Enumeration
import CommentTags.Proofs.Workspace.Burst
import CommentTags.Proofs.Comment.Lookup
import CommentTags.Proofs.View.Palette
import CommentTags.Proofs.Settings.Languages
import CommentTags.Proofs.Toml.Quoted
import CommentTags.Proofs.Toml.Values
import CommentTags.Proofs.Toml.Fields
import CommentTags.Proofs.Toml.Items
import CommentTags.Proofs.Settings.Document
import CommentTags.Proofs.Files.Put
import CommentTags.Proofs.Settings.Saved
import CommentTags.Proofs.Buffer.Edits
import CommentTags.Proofs.Buffer.Terminators
import CommentTags.Proofs.Tag.Extent
import CommentTags.Proofs.Tag.Faults
import CommentTags.Proofs.Scanner.Interrupted
import CommentTags.Proofs.Scanner.MoreTags
import CommentTags.Proofs.View.Cycle
import CommentTags.Proofs.View.Groups
import CommentTags.Proofs.View.Painting
import CommentTags.Proofs.Comment.Names
import CommentTags.Proofs.Workspace.Unlisted
import CommentTags.Proofs.Workspace.Excluding
