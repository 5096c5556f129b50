import ShaderSources.Chunk.Basic
import ShaderSources.Chunk.Position
import ShaderSources.Compile.Log
import ShaderSources.Compile.Shader
import ShaderSources.Compile.Strings
import ShaderSources.Config.Bundle
import ShaderSources.Config.Coerce
import ShaderSources.Config.Environment
import ShaderSources.Config.Error
import ShaderSources.Config.Load
import ShaderSources.Config.Schema
import ShaderSources.Config.Settings
import ShaderSources.Expansion.Basic
import ShaderSources.Expansion.Error
import ShaderSources.Expansion.Expand
import ShaderSources.Expansion.Provider
import ShaderSources.Expansion.Walk
import ShaderSources.Files.Encoding
import ShaderSources.Files.Path
import ShaderSources.Files.Search
import ShaderSources.Files.Tree
import ShaderSources.Note
import ShaderSources.Number.Binary64
import ShaderSources.Number.FloatText
import ShaderSources.Number.Numeral
import ShaderSources.Number.Shortest
import ShaderSources.Problem
import ShaderSources.Proofs.AlikeMappings
import ShaderSources.Proofs.Bisection
import ShaderSources.Proofs.CallTraces
import ShaderSources.Proofs.CatalogDepths
import ShaderSources.Proofs.Catalogs
import ShaderSources.Proofs.CommentModes
import ShaderSources.Proofs.CommentScans
import ShaderSources.Proofs.Covering
import ShaderSources.Proofs.Cycles
import ShaderSources.Proofs.Dependencies
import ShaderSources.Proofs.DepthLimits
import ShaderSources.Proofs.DistinctKeys
import ShaderSources.Proofs.ErrorChains
import ShaderSources.Proofs.Expands
import ShaderSources.Proofs.Fallible
import ShaderSources.Proofs.FileLocations
import ShaderSources.Proofs.FileSources
import ShaderSources.Proofs.IncludeLines
import ShaderSources.Proofs.IndependentOverrides
import ShaderSources.Proofs.LayerLaws
import ShaderSources.Proofs.Layering
import ShaderSources.Proofs.LikeCrawls
import ShaderSources.Proofs.LineCounts
import ShaderSources.Proofs.LineEnds
import ShaderSources.Proofs.LineOrigins
import ShaderSources.Proofs.LineStarts
import ShaderSources.Proofs.Lines
import ShaderSources.Proofs.LiveLines
import ShaderSources.Proofs.Locations
import ShaderSources.Proofs.LogLines
import ShaderSources.Proofs.LogPasses
import ShaderSources.Proofs.LogSpellings
import ShaderSources.Proofs.LogTails
import ShaderSources.Proofs.Moments
import ShaderSources.Proofs.Numerals
import ShaderSources.Proofs.OnceNames
import ShaderSources.Proofs.OnceRequests
import ShaderSources.Proofs.OnePass
import ShaderSources.Proofs.OverrideFaults
import ShaderSources.Proofs.PassageCuts
import ShaderSources.Proofs.Placement
import ShaderSources.Proofs.PlainText
import ShaderSources.Proofs.Precedence
import ShaderSources.Proofs.Pruning
import ShaderSources.Proofs.Replacement
import ShaderSources.Proofs.Shapes
import ShaderSources.Proofs.Sources
import ShaderSources.Proofs.Stages
import ShaderSources.Proofs.StringLines
import ShaderSources.Proofs.TextCuts
import ShaderSources.Proofs.TornLines
import ShaderSources.Proofs.TrailerPattern
import ShaderSources.Proofs.Trailers
import ShaderSources.Provider.Catalog
import ShaderSources.Provider.Fault
import ShaderSources.Provider.Reply
import ShaderSources.Provider.Script
import ShaderSources.Session
import ShaderSources.Source.Comment
import ShaderSources.Source.Directive
import ShaderSources.Source.Line
import ShaderSources.Source.Passage
import ShaderSources.Source.PragmaOnce
import ShaderSources.Supply
import ShaderSources.Text.Basic
import ShaderSources.Text.Blank
import ShaderSources.Text.Digit
import ShaderSources.Text.Lines
import ShaderSources.Text.Lowercase
import ShaderSources.Text.Printable
import ShaderSources.Text.Quoted
import ShaderSources.Text.Word
import ShaderSources.Value.Basic
import ShaderSources.Value.Json
import ShaderSources.Value.Merge
import ShaderSources.Value.Written
import ShaderSources.Yaml.Cursor
import ShaderSources.Yaml.Document
import ShaderSources.Yaml.Fault
import ShaderSources.Yaml.Node
import ShaderSources.Yaml.Scalar
import ShaderSources.Yaml.Token
