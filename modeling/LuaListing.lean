import LuaListing.Text.Glyph
import LuaListing.Text.Utf8
import LuaListing.Text.Ranges
import LuaListing.Text.Blank
import LuaListing.Text.Digit
import LuaListing.Text.Numeral
import LuaListing.Text.Word
import LuaListing.Text.Printable
import LuaListing.Text.Quoted
import LuaListing.Text.Lines
import LuaListing.Text.Scan
import LuaListing.Opcode.Operand
import LuaListing.Opcode.Formula
import LuaListing.Log
import LuaListing.Opcode.Info
import LuaListing.Opcode.Table
import LuaListing.Opcode.Definitions
import LuaListing.Opcode.Bundled
import LuaListing.Opcode.Version
import LuaListing.Text.Ansi
import LuaListing.Listing.Lexeme
import LuaListing.Listing.Token
import LuaListing.Listing.IndexMap
import LuaListing.Listing.Register
import LuaListing.Listing.Symbols
import LuaListing.Listing.Layout
import LuaListing.Listing.Annotator
import LuaListing.Opcode.Dump
import LuaListing.Cli.Path
import LuaListing.Cli.WriteBuffer
import LuaListing.Cli.FileSystem
import LuaListing.Cli.Args
import LuaListing.Cli.Usage
import LuaListing.Cli.Run
import LuaListing.Main
import LuaListing.Proofs.AnnotatorState
import LuaListing.Proofs.SymbolCollection
import LuaListing.Proofs.RawLines
import LuaListing.Proofs.AnnotatedOutput
import LuaListing.Proofs.DefinitionsText
import LuaListing.Proofs.RegisterScope
import LuaListing.Proofs.InstructionLines
import LuaListing.Proofs.InstructionAnnotation
import LuaListing.Proofs.Reannotation
import LuaListing.Proofs.SectionEntryLines
import LuaListing.Proofs.HeaderLines
import LuaListing.Proofs.FormulaFragments
import LuaListing.Proofs.CanonicalFormulas
import LuaListing.Proofs.MergedTables
import LuaListing.Proofs.LineKinds
import LuaListing.Proofs.LineFraming
