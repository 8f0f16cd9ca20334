import TutorialKit.Editing.Workbench
import TutorialKit.Main
import TutorialKit.Storage.Files
import TutorialKit.Proofs.Editing.Moves
import TutorialKit.Proofs.Editing.Runs
import TutorialKit.Proofs.Editing.Reversal
import TutorialKit.Proofs.Editing.Timeline
import TutorialKit.Proofs.Editing.Rollback
import TutorialKit.Proofs.Editing.Sequences
import TutorialKit.Proofs.Editing.Arrangement
import TutorialKit.Proofs.Xml.Attributes
import TutorialKit.Proofs.Xml.References
import TutorialKit.Proofs.Document.Passage
import TutorialKit.Proofs.Document.Conditions
import TutorialKit.Proofs.Document.RoundTrip
import TutorialKit.Proofs.Script.Meaning
import TutorialKit.Proofs.Script.Construction
import TutorialKit.Proofs.Script.Setup
import TutorialKit.Proofs.Script.Variables
import TutorialKit.Proofs.Script.Reporting
import TutorialKit.Proofs.Script.Blocks
import TutorialKit.Proofs.Script.Names
import TutorialKit.Proofs.Script.Problems
import TutorialKit.Proofs.Script.Check
import TutorialKit.Proofs.Editing.Calls
import TutorialKit.Proofs.Xml.Tags
import TutorialKit.Proofs.Xml.Tree
import TutorialKit.Proofs.Xml.Closing
import TutorialKit.Proofs.Document.Interpretation
import TutorialKit.Proofs.Document.Traversal
import TutorialKit.Proofs.Document.Acceptance
import TutorialKit.Proofs.Document.Containers
import TutorialKit.Proofs.Document.Lookups
import TutorialKit.Proofs.Document.Formatting
import TutorialKit.Proofs.Document.Distinctness
import TutorialKit.Proofs.Script.Functions
import TutorialKit.Proofs.Script.Exporting
import TutorialKit.Proofs.Script.Destinations
import TutorialKit.Proofs.Editing.Marks
import TutorialKit.Proofs.Script.LineBreaks
import TutorialKit.Proofs.Script.Literals
import TutorialKit.Proofs.Editing.Observers
import TutorialKit.Proofs.Document.Compatibility
import TutorialKit.Proofs.Document.Deliveries
import TutorialKit.Proofs.Script.SemanticMarkup
import TutorialKit.Proofs.Storage.Saving
import TutorialKit.Proofs.Script.IdentifierStart
import TutorialKit.Proofs.Script.Identifiers
import TutorialKit.Proofs.Script.License
import TutorialKit.Proofs.Storage.Extensions
import TutorialKit.Proofs.Storage.Exports
import TutorialKit.Proofs.Editing.Locality
import TutorialKit.Proofs.Editing.Subscriptions
import TutorialKit.Proofs.Script.RichText
import TutorialKit.Proofs.Script.Words
import TutorialKit.Proofs.Script.Capitals
import TutorialKit.Proofs.Document.Places
import TutorialKit.Proofs.Script.Indentation
