import WikiAccess.Calendar
import WikiAccess.Context
import WikiAccess.Environment
import WikiAccess.Evaluation.Basic
import WikiAccess.Evaluation.Evaluator
import WikiAccess.Evaluation.Guard
import WikiAccess.Evaluation.Resolve
import WikiAccess.Expression
import WikiAccess.HexDigit
import WikiAccess.Json.Basic
import WikiAccess.Json.Evaluation
import WikiAccess.Json.Name
import WikiAccess.Json.Page
import WikiAccess.Json.Permission
import WikiAccess.Json.Session
import WikiAccess.Log.Directive
import WikiAccess.Log.Event
import WikiAccess.Log.Filter
import WikiAccess.Log.Level
import WikiAccess.Log.Pattern
import WikiAccess.Log.Pattern.CharSet
import WikiAccess.Log.Pattern.Escape
import WikiAccess.Log.Pattern.Mode
import WikiAccess.Log.Settings
import WikiAccess.Log.Threshold
import WikiAccess.Lookup
import WikiAccess.Multimap
import WikiAccess.Name
import WikiAccess.Oracle
import WikiAccess.Page
import WikiAccess.Permission.Basic
import WikiAccess.Permission.Implication
import WikiAccess.Permission.Kind
import WikiAccess.Policy
import WikiAccess.Proofs.Evaluation.Answers
import WikiAccess.Proofs.Evaluation.AuditRecord
import WikiAccess.Proofs.Evaluation.Combination
import WikiAccess.Proofs.Evaluation.EntryPoints
import WikiAccess.Proofs.Evaluation.Examination
import WikiAccess.Proofs.Evaluation.Explanation
import WikiAccess.Proofs.Evaluation.Look
import WikiAccess.Proofs.Evaluation.Messages
import WikiAccess.Proofs.Evaluation.Monotone
import WikiAccess.Proofs.Evaluation.Negation
import WikiAccess.Proofs.Evaluation.Noninterference
import WikiAccess.Proofs.Evaluation.Outage
import WikiAccess.Proofs.Evaluation.Resolution
import WikiAccess.Proofs.Evaluation.Scan
import WikiAccess.Proofs.Evaluation.Superseded
import WikiAccess.Proofs.Evaluation.WithoutResource
import WikiAccess.Proofs.Expression.Grammar
import WikiAccess.Proofs.Expression.RoundTrip
import WikiAccess.Proofs.Expression.Tokens
import WikiAccess.Proofs.Json.Exchange
import WikiAccess.Proofs.Log.Entry
import WikiAccess.Proofs.Lookup.Fallback
import WikiAccess.Proofs.Lookup.Find
import WikiAccess.Proofs.Lookup.Reads
import WikiAccess.Proofs.Lookup.Stability
import WikiAccess.Proofs.Permission.Display
import WikiAccess.Proofs.Permission.Order
import WikiAccess.Proofs.Policy.Administrator
import WikiAccess.Proofs.Policy.Deletion
import WikiAccess.Proofs.Policy.Grants
import WikiAccess.Proofs.Policy.ImpliedRoles
import WikiAccess.Proofs.Policy.Redundancy
import WikiAccess.Proofs.Session.Forms
import WikiAccess.Proofs.Settings.Acceptance
import WikiAccess.Proofs.Site.Requests
import WikiAccess.Proofs.Store.History
import WikiAccess.Proofs.Store.Saves
import WikiAccess.Proofs.Text.Spelling
import WikiAccess.Run
import WikiAccess.Session
import WikiAccess.Session.Id
import WikiAccess.Settings
import WikiAccess.Site
import WikiAccess.Store.Basic
import WikiAccess.Store.Memory
import WikiAccess.Text
import WikiAccess.Text.Alphanumeric
import WikiAccess.Text.Cut
import WikiAccess.Timestamp
