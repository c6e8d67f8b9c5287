import RecordQuery.Collection
import RecordQuery.Float.Reading
import RecordQuery.Lookups.Reading
import RecordQuery.Proofs.Meaning
import RecordQuery.Proofs.Wildcard
import RecordQuery.Proofs.ExactValue
import RecordQuery.Proofs.Equality
import RecordQuery.Proofs.Congruence
import RecordQuery.Proofs.Cutting
import RecordQuery.Proofs.SpecifierGrammar
import RecordQuery.Proofs.SpecifierWriting
import RecordQuery.Proofs.Chaining
import RecordQuery.Proofs.Documents
import RecordQuery.Proofs.DocumentText
import RecordQuery.Proofs.ReadingBack
import RecordQuery.Proofs.Changes
import RecordQuery.Proofs.Histories
import RecordQuery.Proofs.Views
import RecordQuery.Proofs.Events
import RecordQuery.Proofs.Denotation
import RecordQuery.Proofs.Rearrangement
import RecordQuery.Proofs.Edits
import RecordQuery.Proofs.Misspelling
import RecordQuery.Proofs.FieldEdits
import RecordQuery.Proofs.MatchingEdits
import RecordQuery.Proofs.Conversions
import RecordQuery.Proofs.IgnoringCase
import RecordQuery.Proofs.Membership
import RecordQuery.Proofs.AsciiCase
import RecordQuery.Proofs.Ingestion
import RecordQuery.Proofs.Resemblance
