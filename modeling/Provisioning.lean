import Provisioning.Action
import Provisioning.Arguments
import Provisioning.CommandLine.Reading
import Provisioning.CommandLine.Run
import Provisioning.CommandLine.Words
import Provisioning.Date
import Provisioning.Decimal.Binary
import Provisioning.Decimal.Numeral
import Provisioning.Decimal.Shortest
import Provisioning.Domain.Name
import Provisioning.Domain.Suffix
import Provisioning.Error
import Provisioning.Family
import Provisioning.LogSetup
import Provisioning.Main
import Provisioning.Markup.Block
import Provisioning.Markup.Cursor
import Provisioning.Markup.Decoder
import Provisioning.Markup.Document
import Provisioning.Markup.Fault
import Provisioning.Markup.Layout
import Provisioning.Markup.Node
import Provisioning.Markup.Plain
import Provisioning.Markup.Property
import Provisioning.Markup.Quoted
import Provisioning.Markup.Scalar
import Provisioning.Markup.Token
import Provisioning.Options.Basic
import Provisioning.Options.Check
import Provisioning.Options.Copy
import Provisioning.Options.Field
import Provisioning.Options.Kind
import Provisioning.Options.Member
import Provisioning.Options.Mutation
import Provisioning.Options.Pool
import Provisioning.Options.Setter
import Provisioning.Options.Shortcut
import Provisioning.Outcome
import Provisioning.Payload
import Provisioning.Proofs.Action
import Provisioning.Proofs.CommandLine.Run
import Provisioning.Proofs.Decimal
import Provisioning.Proofs.Decimal.Exact
import Provisioning.Proofs.Domain.Name
import Provisioning.Proofs.Domain.Suffix
import Provisioning.Proofs.Markup.Document
import Provisioning.Proofs.Options.Acceptance
import Provisioning.Proofs.Options.Agreement
import Provisioning.Proofs.Options.Call
import Provisioning.Proofs.Options.Check
import Provisioning.Proofs.Options.Congruence
import Provisioning.Proofs.Options.Copy
import Provisioning.Proofs.Options.Effect
import Provisioning.Proofs.Options.Forms
import Provisioning.Proofs.Options.Listing
import Provisioning.Proofs.Options.Narrowing
import Provisioning.Proofs.Options.Pool
import Provisioning.Proofs.Options.Refusal
import Provisioning.Proofs.Options.Replay
import Provisioning.Proofs.Options.Secrecy
import Provisioning.Proofs.Options.WellFormed
import Provisioning.Proofs.Outcome
import Provisioning.Proofs.Payload
import Provisioning.Proofs.Provider.Defaults
import Provisioning.Proofs.Provider.Registry
import Provisioning.Proofs.Provider.Shelf
import Provisioning.Proofs.Report
import Provisioning.Proofs.Review
import Provisioning.Proofs.Script.Scope
import Provisioning.Proofs.Session.Comparable
import Provisioning.Proofs.Session.Frozen
import Provisioning.Proofs.Session.Interchange
import Provisioning.Proofs.Session.Price
import Provisioning.Proofs.Session.Restoration
import Provisioning.Proofs.Session.WellFormed
import Provisioning.Proofs.Store.Ancestry
import Provisioning.Proofs.Store.Building
import Provisioning.Proofs.Store.Change
import Provisioning.Proofs.Store.Collapse
import Provisioning.Proofs.Store.Flaws
import Provisioning.Proofs.Store.Lineage
import Provisioning.Proofs.Store.Loaded
import Provisioning.Proofs.Store.Loading
import Provisioning.Proofs.Store.Refusal
import Provisioning.Proofs.Store.Templates
import Provisioning.Proofs.Store.Tree
import Provisioning.Proofs.Store.Unrelated
import Provisioning.Proofs.Template.Application
import Provisioning.Proofs.Template.Precedence
import Provisioning.Proofs.Template.Reapplication
import Provisioning.Proofs.Template.Refusal
import Provisioning.Proofs.Template.Script
import Provisioning.Proofs.Template.Spec
import Provisioning.Proofs.Template.Stage
import Provisioning.Proofs.Text.Case
import Provisioning.Proofs.Text.Malformed
import Provisioning.Proofs.Text.Pattern
import Provisioning.Proofs.Text.Quoted
import Provisioning.Proofs.Text.Utf8
import Provisioning.Proofs.Validation.Check
import Provisioning.Proofs.Value.Equality
import Provisioning.Proofs.Value.Equivalence
import Provisioning.Proofs.Value.Merge
import Provisioning.Proofs.Value.MergeLaws
import Provisioning.Proofs.Value.Written
import Provisioning.Provider.Module
import Provisioning.Provider.Registry
import Provisioning.Provider.Shelf
import Provisioning.Rendering
import Provisioning.Report
import Provisioning.Review
import Provisioning.Script.Access
import Provisioning.Script.Engine
import Provisioning.Script.Evaluation
import Provisioning.Script.Fault
import Provisioning.Script.Filter
import Provisioning.Script.Grammar
import Provisioning.Script.Item
import Provisioning.Script.Number
import Provisioning.Script.Template
import Provisioning.Script.Token
import Provisioning.Script.Tree
import Provisioning.Session
import Provisioning.Settings
import Provisioning.Store.Aftermath
import Provisioning.Store.Basic
import Provisioning.Store.Change
import Provisioning.Store.Definition
import Provisioning.Store.Lineage
import Provisioning.Store.Path
import Provisioning.Store.Sharing
import Provisioning.Store.Tree
import Provisioning.Table
import Provisioning.Template.Application
import Provisioning.Template.Spec
import Provisioning.Text.Blank
import Provisioning.Text.Case
import Provisioning.Text.Digit
import Provisioning.Text.Encoding
import Provisioning.Text.Lines
import Provisioning.Text.Pattern
import Provisioning.Text.Printable
import Provisioning.Text.Quoted
import Provisioning.Text.Search
import Provisioning.Text.Utf8
import Provisioning.Text.Word
import Provisioning.Validation.Check
import Provisioning.Validation.Lax
import Provisioning.Validation.Report
import Provisioning.Value.Basic
import Provisioning.Value.Merge
import Provisioning.Value.Written
