import TypedQuery.Main
import TypedQuery.Proofs.Build.Interleaving
import TypedQuery.Proofs.Build.Placement
import TypedQuery.Proofs.Build.Rebuild
import TypedQuery.Proofs.Build.Session
import TypedQuery.Proofs.Code.Header
import TypedQuery.Proofs.Code.Statement
import TypedQuery.Proofs.Query.BaseName
import TypedQuery.Proofs.Query.BindOrder
import TypedQuery.Proofs.Query.Binding
import TypedQuery.Proofs.Query.Cleaning
import TypedQuery.Proofs.Query.Composition
import TypedQuery.Proofs.Query.Declaration
import TypedQuery.Proofs.Query.LineEnding
import TypedQuery.Proofs.Query.Lookup
import TypedQuery.Proofs.Query.Rebinding
import TypedQuery.Proofs.Query.Recleaning
import TypedQuery.Proofs.Query.Reextraction
import TypedQuery.Proofs.Rows.Registry
import TypedQuery.Proofs.Settings.Load
import TypedQuery.Proofs.Sql.Lexer
import TypedQuery.Rows.Deadline
import TypedQuery.Rows.Single
