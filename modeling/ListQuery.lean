import ListQuery.Config.Environment
import ListQuery.Config.Reader
import ListQuery.Paging.ContentRange
import ListQuery.Params.QueryString
import ListQuery.Sample.Gadgets
import ListQuery.Sample.Users
import ListQuery.Proofs.Findings
import ListQuery.Proofs.Refusals
import ListQuery.Proofs.Cleaning
import ListQuery.Proofs.Emission
import ListQuery.Proofs.VisibleColumns
import ListQuery.Proofs.AllowList
import ListQuery.Proofs.FormEncoding
import ListQuery.Proofs.KeyNotation
import ListQuery.Proofs.ParameterTree
import ListQuery.Proofs.StoredPaths
import ListQuery.Proofs.Lexeme
import ListQuery.Proofs.SelectText
import ListQuery.Proofs.Conditions
import ListQuery.Proofs.Formula
import ListQuery.Proofs.WhereClause
import ListQuery.Proofs.Identifiers
import ListQuery.Proofs.Controls
import ListQuery.Proofs.Pages
import ListQuery.Proofs.Windows
import ListQuery.Proofs.Parts
import ListQuery.Proofs.Agreement
import ListQuery.Proofs.Placeholders
import ListQuery.Proofs.Steering
import ListQuery.Proofs.Exchanges
import ListQuery.Proofs.Roots
import ListQuery.Proofs.LikePatterns
import ListQuery.Proofs.RowRanges
import ListQuery.Proofs.HeaderValues
import ListQuery.Proofs.Comparisons
import ListQuery.Proofs.WrittenIntegers
import ListQuery.Proofs.LeadingIntegers
import ListQuery.Proofs.Bindings
import ListQuery.Proofs.TextColumns
import ListQuery.Proofs.Scalars
import ListQuery.Proofs.Orders
import ListQuery.Proofs.Environments
