import CharacterBuild.Affix.Basic
import CharacterBuild.Affix.Form
import CharacterBuild.Affix.Numeral
import CharacterBuild.Affix.Token
import CharacterBuild.Build.CleanUp
import CharacterBuild.Build.Configuration
import CharacterBuild.Build.Loadout
import CharacterBuild.Build.Save
import CharacterBuild.Command.Arguments
import CharacterBuild.Command.Basic
import CharacterBuild.Command.Report
import CharacterBuild.Damage.Burst
import CharacterBuild.Damage.Formula
import CharacterBuild.Damage.Hit
import CharacterBuild.Damage.Offense
import CharacterBuild.Damage.Reap
import CharacterBuild.Damage.Summary
import CharacterBuild.Document.Json
import CharacterBuild.Document.JsonText
import CharacterBuild.Document.Name
import CharacterBuild.Document.Notation
import CharacterBuild.Document.Record
import CharacterBuild.Document.Toml
import CharacterBuild.Document.Toml.Scalar
import CharacterBuild.Document.Toml.Table
import CharacterBuild.Document.Toml.Text
import CharacterBuild.Document.Value
import CharacterBuild.Files
import CharacterBuild.GameData.Basic
import CharacterBuild.GameData.Bundled
import CharacterBuild.GameData.Constants
import CharacterBuild.GameData.Skill
import CharacterBuild.GameData.Template
import CharacterBuild.Item.Gear
import CharacterBuild.Item.Prism
import CharacterBuild.Item.Ring
import CharacterBuild.Main
import CharacterBuild.Modifier.Basic
import CharacterBuild.Modifier.Effect
import CharacterBuild.Modifier.Scope
import CharacterBuild.Notice
import CharacterBuild.Number.Basic
import CharacterBuild.Number.Binary64
import CharacterBuild.Number.Decimal
import CharacterBuild.Number.Rational
import CharacterBuild.Number.Text
import CharacterBuild.Pool.Source
import CharacterBuild.Proofs.Affix.Acceptance
import CharacterBuild.Proofs.Affix.Cooldown
import CharacterBuild.Proofs.Affix.Figure
import CharacterBuild.Proofs.Affix.Grammar
import CharacterBuild.Proofs.Affix.Line
import CharacterBuild.Proofs.Affix.Lines
import CharacterBuild.Proofs.Affix.Numeral
import CharacterBuild.Proofs.Affix.Places
import CharacterBuild.Proofs.Affix.Reading
import CharacterBuild.Proofs.Affix.Rewriting
import CharacterBuild.Proofs.Affix.Spelling
import CharacterBuild.Proofs.Affix.Telling
import CharacterBuild.Proofs.Affix.Unambiguous
import CharacterBuild.Proofs.Affix.WellFormed
import CharacterBuild.Proofs.Affix.Word
import CharacterBuild.Proofs.Affix.Wording
import CharacterBuild.Proofs.Build.CleanUp
import CharacterBuild.Proofs.Build.Fetching
import CharacterBuild.Proofs.Build.Gauges
import CharacterBuild.Proofs.Build.Places
import CharacterBuild.Proofs.Build.Reload
import CharacterBuild.Proofs.Build.Selection
import CharacterBuild.Proofs.Damage.Branch
import CharacterBuild.Proofs.Damage.Exact
import CharacterBuild.Proofs.Damage.Failure
import CharacterBuild.Proofs.Damage.Gain
import CharacterBuild.Proofs.Damage.Isolation
import CharacterBuild.Proofs.Damage.Order
import CharacterBuild.Proofs.Damage.Penalty
import CharacterBuild.Proofs.Damage.Reach
import CharacterBuild.Proofs.Damage.Retelling
import CharacterBuild.Proofs.Damage.Scopes
import CharacterBuild.Proofs.Damage.Stream
import CharacterBuild.Proofs.Files
import CharacterBuild.Proofs.GameData.Accepted
import CharacterBuild.Proofs.GameData.Bounds
import CharacterBuild.Proofs.GameData.Entries
import CharacterBuild.Proofs.GameData.Table
import CharacterBuild.Proofs.Number.Comparison
import CharacterBuild.Proofs.Number.Decimal
import CharacterBuild.Proofs.Number.Exact
import CharacterBuild.Proofs.Number.Rounding
import CharacterBuild.Proofs.Pool.Order
import CharacterBuild.Proofs.Pool.Passive
import CharacterBuild.Proofs.Pool.Scope
import CharacterBuild.Proofs.Pool.Talent
import CharacterBuild.Proofs.Scan
import CharacterBuild.Proofs.Stats.Bucket
import CharacterBuild.Proofs.Stats.Influence
import CharacterBuild.Proofs.Stats.Matching
import CharacterBuild.Proofs.Stats.Resistance
import CharacterBuild.Proofs.Stats.Total
import CharacterBuild.Proofs.Talent.Cache
import CharacterBuild.Proofs.Talent.Canonical
import CharacterBuild.Proofs.Talent.Chain
import CharacterBuild.Proofs.Talent.Column
import CharacterBuild.Proofs.Talent.Directory
import CharacterBuild.Proofs.Talent.Exchange
import CharacterBuild.Proofs.Talent.Fault
import CharacterBuild.Proofs.Talent.Growth
import CharacterBuild.Proofs.Talent.Layout
import CharacterBuild.Proofs.Talent.Move
import CharacterBuild.Proofs.Talent.Points
import CharacterBuild.Proofs.Talent.Rules
import CharacterBuild.Proofs.Talent.Total
import CharacterBuild.Proofs.Talent.Undo
import CharacterBuild.Proofs.Talent.Unwinding
import CharacterBuild.Proofs.Talent.Width
import CharacterBuild.Proofs.Text.FirstWord
import CharacterBuild.Proofs.Text.Lower
import CharacterBuild.Proofs.Text.Split
import CharacterBuild.Stats.Aggregate
import CharacterBuild.Stats.Resistance
import CharacterBuild.Talent.Allocation
import CharacterBuild.Talent.Library
import CharacterBuild.Talent.Tree
import CharacterBuild.Talent.TreeName
import CharacterBuild.Text.Cased
import CharacterBuild.Text.Digit
import CharacterBuild.Text.Extending
import CharacterBuild.Text.Letter
import CharacterBuild.Text.Lowercase
import CharacterBuild.Text.Padding
import CharacterBuild.Text.Printable
import CharacterBuild.Text.Quoted
import CharacterBuild.Text.Run
import CharacterBuild.Text.Space
