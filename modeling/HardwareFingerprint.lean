import HardwareFingerprint.Text.Blank
import HardwareFingerprint.Text.Split
import HardwareFingerprint.Text.Quoted
import HardwareFingerprint.Canonical
import HardwareFingerprint.Json.Shape
import HardwareFingerprint.Json.Writer
import HardwareFingerprint.RecordClass
import HardwareFingerprint.Record.Document
import HardwareFingerprint.Category
import HardwareFingerprint.Event
import HardwareFingerprint.Session
import HardwareFingerprint.Platform
import HardwareFingerprint.Readiness
import HardwareFingerprint.Source
import HardwareFingerprint.FileTree
import HardwareFingerprint.Host.Address
import HardwareFingerprint.Host.Facts
import HardwareFingerprint.Collection
import HardwareFingerprint.Engine
import HardwareFingerprint.Settings
import HardwareFingerprint.CommandLine
import HardwareFingerprint.LogFilter
import HardwareFingerprint.Program
import HardwareFingerprint.Scripted
import HardwareFingerprint.Machine.Basic
import HardwareFingerprint.Machine.Script
import HardwareFingerprint.Machine.Template
import HardwareFingerprint.Machine.Usual
import HardwareFingerprint.Main
import HardwareFingerprint.Numeral.Decimal
import HardwareFingerprint.Pattern.Basic
import HardwareFingerprint.Pattern.Escape
import HardwareFingerprint.Pattern.CharacterSet
import HardwareFingerprint.Pattern.Group
import HardwareFingerprint.Proofs.Run.Gate
import HardwareFingerprint.Proofs.Run.Order
import HardwareFingerprint.Proofs.Run.Isolation
import HardwareFingerprint.Proofs.Record.SelfDelimiting
import HardwareFingerprint.Proofs.Digest.Base64
import HardwareFingerprint.Proofs.Run.Backends
import HardwareFingerprint.Proofs.Run.Logging
import HardwareFingerprint.Proofs.Run.Failures
import HardwareFingerprint.Proofs.Run.Account
import HardwareFingerprint.Proofs.Fingerprint.LastSet
import HardwareFingerprint.Proofs.Json.Arrangement
import HardwareFingerprint.Proofs.Record.Arrangement
import HardwareFingerprint.Proofs.Json.Writing
import HardwareFingerprint.Proofs.Json.Restoring
import HardwareFingerprint.Proofs.Record.Restoring
import HardwareFingerprint.Proofs.Settings.Overriding
import HardwareFingerprint.Proofs.Settings.Restoring
import HardwareFingerprint.Proofs.Fingerprint.Rendering
import HardwareFingerprint.Proofs.Version.Order
import HardwareFingerprint.Proofs.Version.Grammar
import HardwareFingerprint.Proofs.Run.Waiting
import HardwareFingerprint.Proofs.Run.Edition
import HardwareFingerprint.Proofs.Host.NormalForm
import HardwareFingerprint.Proofs.Host.Listing
import HardwareFingerprint.Proofs.Record.Leniency
import HardwareFingerprint.Proofs.Digest.WrittenForm
import HardwareFingerprint.Proofs.Run.Report
import HardwareFingerprint.Proofs.Host.Reported
import HardwareFingerprint.Proofs.Settings.Merging
import HardwareFingerprint.Proofs.Settings.Loading
import HardwareFingerprint.Proofs.Program.Stages
