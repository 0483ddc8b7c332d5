import Turnstile.Access.Blocklist
import Turnstile.Access.Error
import Turnstile.Access.Gate
import Turnstile.Archive.Batch
import Turnstile.Archive.Entry
import Turnstile.Archive.Naming
import Turnstile.Drain.Cycle
import Turnstile.Drain.Report
import Turnstile.Files.Error
import Turnstile.Files.Tree
import Turnstile.Float.Binary64
import Turnstile.Float.Shortest
import Turnstile.Halt
import Turnstile.Ident.CounterKey
import Turnstile.Ident.Credential
import Turnstile.Ident.DetailPath
import Turnstile.Ident.Error
import Turnstile.Ident.Segment
import Turnstile.Json.Cursor
import Turnstile.Json.Decode
import Turnstile.Json.Scan
import Turnstile.Json.Value
import Turnstile.LogFilter
import Turnstile.Meter
import Turnstile.Meter.Error
import Turnstile.Meter.Pool
import Turnstile.Net.SocketAddr
import Turnstile.Proofs.Drain.Exclusion
import Turnstile.Proofs.Drain.Holdings
import Turnstile.Proofs.Drain.Steps
import Turnstile.Proofs.Drain.Traffic
import Turnstile.Proofs.KeyCodec
import Turnstile.Proofs.Store.TableSums
import Turnstile.Proofs.Store.Run
import Turnstile.Request
import Turnstile.Script.Answer
import Turnstile.Script.Field
import Turnstile.Script.Ops.Archive
import Turnstile.Script.Ops.Host
import Turnstile.Script.Ops.Ident
import Turnstile.Script.Ops.Request
import Turnstile.Script.Ops.Wire
import Turnstile.Script.Respond
import Turnstile.Script.Session
import Turnstile.Script.Steps.Parts
import Turnstile.Script.Steps.Service
import Turnstile.Script.Steps.Stores
import Turnstile.Service.App
import Turnstile.Service.Config
import Turnstile.Service.Error
import Turnstile.Service.World
import Turnstile.Service.Closing
import Turnstile.Ship
import Turnstile.Status
import Turnstile.Store.Backend
import Turnstile.Store.Blobs
import Turnstile.Store.Counters
import Turnstile.Store.Error
import Turnstile.Store.Kv
import Turnstile.Store.Records
import Turnstile.Store.Table
import Turnstile.Text.GraphemeExtend
import Turnstile.Text.Quoted
import Turnstile.Text.Ranges
import Turnstile.Text.Split
import Turnstile.Text.Unprintable
import Turnstile.Text.WordChar
import Turnstile.Time.Civil
import Turnstile.Time.Instant
import Turnstile.Time.Rfc3339
import Turnstile.Proofs.Drain.Conservation
import Turnstile.Proofs.Access.StatusCache
import Turnstile.Proofs.Access.Blocks
import Turnstile.Proofs.Store.Engines
import Turnstile.Proofs.Time.Calendar
import Turnstile.Proofs.Time.Rfc3339Text
import Turnstile.Proofs.Json.Reading
import Turnstile.Proofs.Json.Yields
import Turnstile.Proofs.Archive.RoundTrip
import Turnstile.Proofs.Meter.Accounting
import Turnstile.Proofs.Drain.WholeCycle
import Turnstile.Proofs.Drain.Sums
import Turnstile.Proofs.Drain.Taking
import Turnstile.Proofs.Drain.Storing
import Turnstile.Proofs.Drain.Outcome
import Turnstile.Proofs.Service.Ledger
import Turnstile.Proofs.Service.Guard
import Turnstile.Proofs.Drain.Books
import Turnstile.Proofs.Archive.Names
import Turnstile.Proofs.Store.Checked
import Turnstile.Proofs.Service.Lifetimes
import Turnstile.Proofs.Service.Shutdown
import Turnstile.Proofs.Meter.Pool
import Turnstile.Proofs.Service.Closing
