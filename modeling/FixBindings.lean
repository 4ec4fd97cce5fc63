import FixBindings.Main
import FixBindings.Proofs.Text.Characters
import FixBindings.Proofs.Text.Surrogate
import FixBindings.Proofs.Text.Numeral
import FixBindings.Proofs.Text.SingleLine
import FixBindings.Proofs.Text.LetterCase
import FixBindings.Proofs.Identifier.Characters
import FixBindings.Proofs.Identifier.Words
import FixBindings.Proofs.Identifier.Members
import FixBindings.Proofs.Identifier.Capitals
import FixBindings.Proofs.Identifier.MemberCase
import FixBindings.Proofs.Rust.Delimiters
import FixBindings.Proofs.Rust.Literal
import FixBindings.Proofs.Rust.Source
import FixBindings.Proofs.Rust.Lines
import FixBindings.Proofs.Rust.Fragments
import FixBindings.Proofs.Rust.Assembly
import FixBindings.Proofs.Rust.Passage
import FixBindings.Proofs.Rust.Members
import FixBindings.Proofs.Rust.Structure
import FixBindings.Proofs.Rust.VersionNumbers
import FixBindings.Proofs.Rust.Reference
import FixBindings.Proofs.Rust.VersionSlug
import FixBindings.Proofs.Dictionary.TypeName
import FixBindings.Proofs.Dictionary.Description
import FixBindings.Proofs.Dictionary.Loading
import FixBindings.Proofs.Dictionary.Grammar
import FixBindings.Proofs.Dictionary.Closure
import FixBindings.Proofs.Dictionary.Writing
import FixBindings.Proofs.Dictionary.ByName
import FixBindings.Proofs.Dictionary.DeclarationOrder
import FixBindings.Proofs.Rust.Tags
import FixBindings.Proofs.Rust.Inlining
import FixBindings.Proofs.Rust.Agreement
import FixBindings.Proofs.Rust.MemberOrder
import FixBindings.Proofs.Rust.DefinitionText
import FixBindings.Proofs.Rust.StructText
import FixBindings.Proofs.Rust.Requirement
import FixBindings.Proofs.Rust.Accounting
import FixBindings.Proofs.Rust.Collisions
import FixBindings.Proofs.Rust.Comments
import FixBindings.Proofs.Rust.Version
import FixBindings.Proofs.Calendar.Instant
import FixBindings.Proofs.Calendar.Seconds
import FixBindings.Proofs.Calendar.MailText
import FixBindings.Proofs.Rust.Notice
import FixBindings.Proofs.Rust.Growth
import FixBindings.Proofs.Rust.Clock
import FixBindings.Proofs.Rust.CratePath
import FixBindings.Proofs.Text.Utf8
import FixBindings.Proofs.Json.Reading
import FixBindings.Proofs.Dictionary.Outcome
import FixBindings.Proofs.Path
import FixBindings.Proofs.FileTree
import FixBindings.Proofs.CommandLine.Effect
import FixBindings.Proofs.CommandLine.Failure
