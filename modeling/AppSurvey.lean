import AppSurvey.About
import AppSurvey.Apk.Download
import AppSurvey.Apk.EntryPoint
import AppSurvey.Apk.Manifest
import AppSurvey.Apk.Package
import AppSurvey.Apk.Reading
import AppSurvey.Apk.Resource
import AppSurvey.Calendar
import AppSurvey.Dex.Access
import AppSurvey.Dex.Bundle
import AppSurvey.Dex.ClassData
import AppSurvey.Dex.ClassName
import AppSurvey.Dex.Descriptor
import AppSurvey.Dex.EntryName
import AppSurvey.Dex.Expression
import AppSurvey.Dex.Fault
import AppSurvey.Dex.File
import AppSurvey.Dex.Filter
import AppSurvey.Dex.Image
import AppSurvey.Dex.Instruction
import AppSurvey.Dex.Listing
import AppSurvey.Dex.Member
import AppSurvey.Dex.Opcode
import AppSurvey.Dex.Outline
import AppSurvey.Dex.Signature
import AppSurvey.File.Path
import AppSurvey.File.Tree
import AppSurvey.Flow.Analysis
import AppSurvey.Flow.Build
import AppSurvey.Flow.CallGraph
import AppSurvey.Flow.Path
import AppSurvey.Json.Printer
import AppSurvey.Json.Reader
import AppSurvey.Keyed
import AppSurvey.Main
import AppSurvey.Markdown.Numbering
import AppSurvey.Markdown.Project
import AppSurvey.Number.Basic
import AppSurvey.Number.Binary64
import AppSurvey.Number.Shortest
import AppSurvey.Offer
import AppSurvey.Proofs.Dex.ClassData
import AppSurvey.Proofs.Dex.Descriptor
import AppSurvey.Proofs.Dex.Image
import AppSurvey.Proofs.Dex.Layout
import AppSurvey.Proofs.Flow.Analysis
import AppSurvey.Proofs.Flow.Build
import AppSurvey.Proofs.Flow.CallGraph
import AppSurvey.Proofs.Flow.Chain
import AppSurvey.Proofs.Flow.Walk
import AppSurvey.Proofs.Text.ModifiedUtf8
import AppSurvey.Proofs.Text.Utf8
import AppSurvey.Record.Apk
import AppSurvey.Record.Basic
import AppSurvey.Record.Dex
import AppSurvey.Record.File
import AppSurvey.Record.Flow
import AppSurvey.Record.Package
import AppSurvey.Record.Release
import AppSurvey.Record.Report
import AppSurvey.Record.Steps
import AppSurvey.Record.Store
import AppSurvey.Release.Changelog
import AppSurvey.Release.Finalize
import AppSurvey.Release.Publish
import AppSurvey.Release.Shell
import AppSurvey.Replay
import AppSurvey.Slice
import AppSurvey.Store.App
import AppSurvey.Store.Country
import AppSurvey.Store.CountryTable
import AppSurvey.Store.DirectClient
import AppSurvey.Store.Error
import AppSurvey.Store.Exchange
import AppSurvey.Store.Fetch
import AppSurvey.Store.ListForm
import AppSurvey.Store.PageClient
import AppSurvey.Store.Request
import AppSurvey.Store.RequestBody
import AppSurvey.Store.RequestBuilder
import AppSurvey.Store.ReviewsForm
import AppSurvey.Store.Schema
import AppSurvey.Store.Vocabulary
import AppSurvey.Talk
import AppSurvey.Text.Blank
import AppSurvey.Text.Case
import AppSurvey.Text.CaseTable
import AppSurvey.Text.Decimal
import AppSurvey.Text.DigitTable
import AppSurvey.Text.Hex
import AppSurvey.Text.LineEnd
import AppSurvey.Text.Printable
import AppSurvey.Text.Quoted
import AppSurvey.Text.Search
import AppSurvey.Text.Template
import AppSurvey.Text.Utf8
import AppSurvey.Text.WholeNumber
import AppSurvey.Value
import AppSurvey.Value.Filing
import AppSurvey.Value.Use
import AppSurvey.Proofs.Dex.Instruction
import AppSurvey.Proofs.Dex.Leftover
import AppSurvey.Proofs.Dex.ListedCall
import AppSurvey.Proofs.Dex.Registers
import AppSurvey.Proofs.Dex.Report
import AppSurvey.Proofs.Dex.Resolution
import AppSurvey.Proofs.Dex.Sweep
import AppSurvey.Proofs.Dex.WebCall
import AppSurvey.Proofs.Flow.Recording
import AppSurvey.Proofs.Flow.Repetition
import AppSurvey.Proofs.Dex.Writing
import AppSurvey.Proofs.Dex.Extension
import AppSurvey.Proofs.Outcome
import AppSurvey.Proofs.Talk
import AppSurvey.Proofs.Store.Paging
import AppSurvey.Proofs.Store.Collection
import AppSurvey.Proofs.Dex.Bounds
import AppSurvey.Proofs.Dex.Bundle
import AppSurvey.Proofs.Dex.ClassName
import AppSurvey.Proofs.Dex.FindCode
import AppSurvey.Proofs.Flow.PathOrder
import AppSurvey.Proofs.Flow.Saturation
import AppSurvey.Proofs.Apk.Loading
import AppSurvey.Proofs.Release.Log
import AppSurvey.Proofs.Release.Publish
import AppSurvey.Proofs.Dex.Search
import AppSurvey.Proofs.Dex.Listing
import AppSurvey.Proofs.Dex.Segments
import AppSurvey.Proofs.Dex.RangeCall
import AppSurvey.Proofs.Dex.NameParts
import AppSurvey.Proofs.Dex.StringData
import AppSurvey.Proofs.Dex.Arguments
import AppSurvey.Proofs.Flow.Summary
import AppSurvey.Proofs.Apk.EntryPoint
import AppSurvey.Proofs.Flow.Deeplink
import AppSurvey.Proofs.Store.PageLimit
import AppSurvey.Proofs.Dex.CallText
import AppSurvey.Proofs.Flow.Reading
import AppSurvey.Proofs.Store.Failure
import AppSurvey.Proofs.Store.Sharing
import AppSurvey.Proofs.Store.Fetch
import AppSurvey.Proofs.Markdown.Numbering
import AppSurvey.Proofs.Markdown.Renumbering
import AppSurvey.Proofs.Markdown.Places
import AppSurvey.Proofs.Release.Finalize
import AppSurvey.Proofs.Apk.Grouping
import AppSurvey.Proofs.Text.Template
import AppSurvey.Proofs.Store.RequestBody
import AppSurvey.Proofs.Dex.Descriptor
import AppSurvey.Proofs.Dex.Varint
import AppSurvey.Proofs.Dex.EntryName
