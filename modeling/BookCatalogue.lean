import BookCatalogue.Api.Router
import BookCatalogue.Database.Migration
import BookCatalogue.Digest.Sha256
import BookCatalogue.Filter.Query
import BookCatalogue.Main
import BookCatalogue.Shutdown
import BookCatalogue.Proofs.Naming
import BookCatalogue.Proofs.Filter.Clause
import BookCatalogue.Proofs.Filter.Grammar
import BookCatalogue.Proofs.Filter.Rendering
import BookCatalogue.Proofs.Filter.Encoding
import BookCatalogue.Proofs.Book.Date
import BookCatalogue.Proofs.Book.DateOrder
import BookCatalogue.Proofs.Catalogue.Row
import BookCatalogue.Proofs.Catalogue.Calls
import BookCatalogue.Proofs.Catalogue.Refinement
import BookCatalogue.Proofs.Catalogue.Condition
import BookCatalogue.Proofs.Catalogue.Field
import BookCatalogue.Proofs.Catalogue.Listing
import BookCatalogue.Proofs.Catalogue.Consistency
import BookCatalogue.Proofs.Api.Change
import BookCatalogue.Proofs.Api.History
import BookCatalogue.Proofs.Catalogue.Lookup
import BookCatalogue.Proofs.Api.Validation
import BookCatalogue.Proofs.Api.Effect
import BookCatalogue.Proofs.Catalogue.DateRange
import BookCatalogue.Proofs.Database.Opening
import BookCatalogue.Proofs.Catalogue.Reordering
import BookCatalogue.Proofs.Database.Progress
import BookCatalogue.Proofs.Filter.Identifier
import BookCatalogue.Proofs.Filter.Unescaped
import BookCatalogue.Proofs.Shutdown
import BookCatalogue.Proofs.Filter.Refusal
import BookCatalogue.Proofs.Book.DateText
import BookCatalogue.Proofs.Api.Return
import BookCatalogue.Proofs.Api.Lookup
import BookCatalogue.Proofs.Book.Spelling
import BookCatalogue.Proofs.Config.Load
import BookCatalogue.Proofs.Files.Path
import BookCatalogue.Proofs.Filter.Explanation
import BookCatalogue.Proofs.Filter.FieldName
import BookCatalogue.Proofs.Api.Origin
import BookCatalogue.Proofs.Api.Rejection
import BookCatalogue.Proofs.Naming.Canonical
