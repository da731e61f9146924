import AccessPolicy.Address
import AccessPolicy.Bound
import AccessPolicy.BoundIdentity
import AccessPolicy.Callable.Binder
import AccessPolicy.Callable.Proxy
import AccessPolicy.Callable.Secured
import AccessPolicy.Callable.Signature
import AccessPolicy.Callable.Slots
import AccessPolicy.Callable.TypeHint
import AccessPolicy.Callable.TypeName
import AccessPolicy.Checked
import AccessPolicy.Checked.Lenient
import AccessPolicy.Documents.DemoPolicy
import AccessPolicy.Documents.Permission
import AccessPolicy.Documents.Service
import AccessPolicy.Documents.Site
import AccessPolicy.Documents.Store
import AccessPolicy.Expr
import AccessPolicy.Expr.Eval
import AccessPolicy.Expr.Grammar
import AccessPolicy.Expr.Names
import AccessPolicy.Expr.Statement
import AccessPolicy.Expr.TextLiteral
import AccessPolicy.Expr.Token
import AccessPolicy.Failure
import AccessPolicy.Filter
import AccessPolicy.Guard
import AccessPolicy.Handler
import AccessPolicy.Http.Cookie
import AccessPolicy.Http.Credentials
import AccessPolicy.Http.Enforcement
import AccessPolicy.Http.Location
import AccessPolicy.Http.Response
import AccessPolicy.Http.Target
import AccessPolicy.Identity
import AccessPolicy.Json
import AccessPolicy.LogLevel
import AccessPolicy.Number.Binary
import AccessPolicy.Number.Decimal
import AccessPolicy.Number.Integer
import AccessPolicy.Number.Shortest
import AccessPolicy.Permission
import AccessPolicy.Policy.Document
import AccessPolicy.Policy.Model
import AccessPolicy.Policy.Path
import AccessPolicy.Policy.Rules
import AccessPolicy.Proofs.Accepted
import AccessPolicy.Proofs.AddressParts
import AccessPolicy.Proofs.AddressTexts
import AccessPolicy.Proofs.Alike
import AccessPolicy.Proofs.Annotations
import AccessPolicy.Proofs.Anonymous
import AccessPolicy.Proofs.Attaching
import AccessPolicy.Proofs.Bearerless
import AccessPolicy.Proofs.Binding
import AccessPolicy.Proofs.Bindings
import AccessPolicy.Proofs.Blocks
import AccessPolicy.Proofs.BodyNames
import AccessPolicy.Proofs.Builtins
import AccessPolicy.Proofs.Changes
import AccessPolicy.Proofs.Choice
import AccessPolicy.Proofs.Consultations
import AccessPolicy.Proofs.Covering
import AccessPolicy.Proofs.Cycles
import AccessPolicy.Proofs.Decimals
import AccessPolicy.Proofs.Delegation
import AccessPolicy.Proofs.Deletion
import AccessPolicy.Proofs.Demands
import AccessPolicy.Proofs.Dispatch
import AccessPolicy.Proofs.Faults
import AccessPolicy.Proofs.Fields
import AccessPolicy.Proofs.FilterTargets
import AccessPolicy.Proofs.Fitting
import AccessPolicy.Proofs.Formulas
import AccessPolicy.Proofs.FreeNames
import AccessPolicy.Proofs.Granting
import AccessPolicy.Proofs.Grounded
import AccessPolicy.Proofs.GuardDecisions
import AccessPolicy.Proofs.HiddenBeans
import AccessPolicy.Proofs.HiddenTitles
import AccessPolicy.Proofs.Identification
import AccessPolicy.Proofs.Interleaving
import AccessPolicy.Proofs.Keeping
import AccessPolicy.Proofs.KnownNames
import AccessPolicy.Proofs.Lacking
import AccessPolicy.Proofs.LackingCalls
import AccessPolicy.Proofs.LiteralCalls
import AccessPolicy.Proofs.LiteralRanges
import AccessPolicy.Proofs.Members
import AccessPolicy.Proofs.Nesting
import AccessPolicy.Proofs.Operations
import AccessPolicy.Proofs.Outcome
import AccessPolicy.Proofs.ParameterNames
import AccessPolicy.Proofs.Passing
import AccessPolicy.Proofs.Pattern
import AccessPolicy.Proofs.Petitions
import AccessPolicy.Proofs.Placeholders
import AccessPolicy.Proofs.PlainGuards
import AccessPolicy.Proofs.Protected
import AccessPolicy.Proofs.Protocol
import AccessPolicy.Proofs.Ranges
import AccessPolicy.Proofs.Readings
import AccessPolicy.Proofs.Receiving
import AccessPolicy.Proofs.Recording
import AccessPolicy.Proofs.Related
import AccessPolicy.Proofs.Rendered
import AccessPolicy.Proofs.Routing
import AccessPolicy.Proofs.Scope
import AccessPolicy.Proofs.SecuredCalls
import AccessPolicy.Proofs.Serving
import AccessPolicy.Proofs.Simulation
import AccessPolicy.Proofs.SingleExpression
import AccessPolicy.Proofs.SiteRules
import AccessPolicy.Proofs.Statements
import AccessPolicy.Proofs.Subexpressions
import AccessPolicy.Proofs.Trials
import AccessPolicy.Proofs.Weights
import AccessPolicy.Proofs.Widening
import AccessPolicy.RoleHierarchy
import AccessPolicy.Script
import AccessPolicy.Settings
import AccessPolicy.Subject
import AccessPolicy.Template
import AccessPolicy.Text.Case
import AccessPolicy.Text.Class
import AccessPolicy.Text.Digit
import AccessPolicy.Text.Identifier
import AccessPolicy.Text.Percent
import AccessPolicy.Text.Printable
import AccessPolicy.Text.Quoted
import AccessPolicy.Text.Regex
import AccessPolicy.Text.Search
import AccessPolicy.Text.Sorted
import AccessPolicy.Text.Utf8
import AccessPolicy.Value
import AccessPolicy.Value.Arithmetic
import AccessPolicy.Value.Class
import AccessPolicy.Value.Conversion
import AccessPolicy.Value.Directive
import AccessPolicy.Value.Equality
import AccessPolicy.Value.Fault
import AccessPolicy.Value.Items
import AccessPolicy.Value.Layout
import AccessPolicy.Value.Method
import AccessPolicy.Value.Operator
import AccessPolicy.Value.Order
import AccessPolicy.Value.SetOrder
import AccessPolicy.Value.Whole
import AccessPolicy.Value.Written
import AccessPolicy.Yaml.Content
import AccessPolicy.Yaml.Cursor
import AccessPolicy.Yaml.Form
import AccessPolicy.Yaml.Node
import AccessPolicy.Yaml.Scalar
import AccessPolicy.Yaml.Token
