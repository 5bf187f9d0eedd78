import CandleArchive.Asset
import CandleArchive.Candle
import CandleArchive.Config
import CandleArchive.Database
import CandleArchive.EnvFile
import CandleArchive.Environment
import CandleArchive.Error
import CandleArchive.Event
import CandleArchive.History
import CandleArchive.Json.Number
import CandleArchive.Json.Token
import CandleArchive.Json.Tree
import CandleArchive.Json.Value
import CandleArchive.LogFilter
import CandleArchive.Main
import CandleArchive.Market.Klines
import CandleArchive.Market.Ranking
import CandleArchive.Number.Binary64
import CandleArchive.Number.Decimal
import CandleArchive.Number.Integer
import CandleArchive.Pacing
import CandleArchive.Program
import CandleArchive.Registry
import CandleArchive.Report
import CandleArchive.Run
import CandleArchive.Store.Basic
import CandleArchive.Store.Error
import CandleArchive.Store.Migration
import CandleArchive.Store.Schema
import CandleArchive.Store.Write
import CandleArchive.Text.Blank
import CandleArchive.Text.PlainRuns
import CandleArchive.Text.Quoted
import CandleArchive.Text.Upper
import CandleArchive.Text.UpperTable
import CandleArchive.Text.Utf8
import CandleArchive.Timeframe
import CandleArchive.Web.Exchange
import CandleArchive.Web.Form
import CandleArchive.Web.Status
import CandleArchive.Web.Url
import CandleArchive.Proofs.FirstPerKey
import CandleArchive.Proofs.Store.Insertion
import CandleArchive.Proofs.Registry
import CandleArchive.Proofs.History
import CandleArchive.Proofs.Run
import CandleArchive.Proofs.Rerun
import CandleArchive.Proofs.Isolation
import CandleArchive.Proofs.Recovery
import CandleArchive.Proofs.WriteOnce
import CandleArchive.Proofs.Windows
import CandleArchive.Proofs.Report
import CandleArchive.Proofs.Order
import CandleArchive.Proofs.Transaction
import CandleArchive.Proofs.Development
import CandleArchive.Proofs.Pacing
import CandleArchive.Proofs.Requests
import CandleArchive.Proofs.Integrity
import CandleArchive.Proofs.Import
import CandleArchive.Proofs.Upserts
import CandleArchive.Proofs.Log
import CandleArchive.Proofs.Ranking
import CandleArchive.Proofs.Number.Decimal
import CandleArchive.Proofs.Text.Trim
import CandleArchive.Proofs.Candle
import CandleArchive.Proofs.Listings
import CandleArchive.Proofs.Text.Utf8
import CandleArchive.Proofs.Redaction
import CandleArchive.Proofs.Environment
import CandleArchive.Proofs.Web.Url
import CandleArchive.Proofs.Klines
import CandleArchive.Proofs.Text.Upper
import CandleArchive.Proofs.Symbol
import CandleArchive.Proofs.Gate
