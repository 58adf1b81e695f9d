import FilmCatalog.Catalog.Command
import FilmCatalog.FilmId.Lemmas
import FilmCatalog.Service
import FilmCatalog.Text.Utf8.Lemmas
import FilmCatalog.Catalog.Consistent
import FilmCatalog.Reading.Grammar
import FilmCatalog.Proofs.Runs
import FilmCatalog.Proofs.OneTable
import FilmCatalog.Proofs.History
import FilmCatalog.Proofs.Requests
import FilmCatalog.Proofs.Showing
import FilmCatalog.Proofs.Texts
import FilmCatalog.Proofs.Bodies
import FilmCatalog.Proofs.Submissions
import FilmCatalog.Proofs.Operations
import FilmCatalog.Proofs.StatusModes
import FilmCatalog.Text.Form.Grammar
import FilmCatalog.Proofs.Writing
import FilmCatalog.Proofs.Characters
import FilmCatalog.Proofs.Forms
import FilmCatalog.Proofs.Exactness
import FilmCatalog.Proofs.Creations
import FilmCatalog.Proofs.Erasure
import FilmCatalog.Proofs.Numbering
import FilmCatalog.Proofs.Retries
import FilmCatalog.Proofs.Listings
import FilmCatalog.Datum.Reader
import FilmCatalog.Proofs.Magnitudes
import FilmCatalog.Proofs.Documents
import FilmCatalog.Proofs.Answers
import FilmCatalog.Proofs.Numerals
import FilmCatalog.Proofs.Segments
import FilmCatalog.Proofs.Queries
import FilmCatalog.Proofs.Reordering
import FilmCatalog.Proofs.ContentTypes
import FilmCatalog.Proofs.Bases
import FilmCatalog.Proofs.Cuts
import FilmCatalog.Proofs.Limits
import FilmCatalog.Proofs.Environments
import FilmCatalog.Proofs.Origins
