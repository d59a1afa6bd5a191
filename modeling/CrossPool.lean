import CrossPool.Amount
import CrossPool.Binary64.Basic
import CrossPool.Binary64.Checked
import CrossPool.Binary64.Order
import CrossPool.Binary64.Shortest
import CrossPool.Binary64.Text
import CrossPool.Calc
import CrossPool.Cli.Args
import CrossPool.Cli.Command
import CrossPool.Cli.Samples
import CrossPool.Clock
import CrossPool.Config.Build
import CrossPool.Config.Check
import CrossPool.Config.Validator
import CrossPool.Config.Load
import CrossPool.Config.Schema
import CrossPool.Curve.Concentrated
import CrossPool.Curve.ConstantProduct
import CrossPool.Data.Hash
import CrossPool.Data.Json
import CrossPool.Data.Show
import CrossPool.Data.Stamp
import CrossPool.Data.Value
import CrossPool.Decimal.Arith
import CrossPool.Decimal.Basic
import CrossPool.Decimal.Convert
import CrossPool.Decimal.Power
import CrossPool.Decimal.Text
import CrossPool.Detector.Opportunity
import CrossPool.Detector.Scan
import CrossPool.Detector.Validate
import CrossPool.Display
import CrossPool.Fault
import CrossPool.Log
import CrossPool.Main
import CrossPool.Metrics
import CrossPool.Monitor.Basic
import CrossPool.Monitor.Ops
import CrossPool.Monitor.Quote
import CrossPool.Number
import CrossPool.Pool.Cache
import CrossPool.Pool.Kind
import CrossPool.Pool.State
import CrossPool.Proofs.Swap.Width
import CrossPool.Report.Grid
import CrossPool.Runner
import CrossPool.Stability
import CrossPool.Text.Alnum
import CrossPool.Text.Blank
import CrossPool.Text.Case
import CrossPool.Text.Digit
import CrossPool.Text.Numeral
import CrossPool.Text.Printable
import CrossPool.Text.Str
import CrossPool.Text.Utf8
import CrossPool.Trade.Evaluation
import CrossPool.Trade.Grid
import CrossPool.Trade.Settings
import CrossPool.Yaml.Document
import CrossPool.Yaml.Event
import CrossPool.Yaml.Node
import CrossPool.Yaml.Node.Value
import CrossPool.Yaml.Token
import CrossPool.Yaml.Token.Cursor
import CrossPool.Yaml.Token.Lexer
import CrossPool.Yaml.Token.Scalar
import CrossPool.Proofs.Cache.Index
import CrossPool.Proofs.Cache.Map
import CrossPool.Proofs.Scan.Faults
import CrossPool.Proofs.Binary64.Order
import CrossPool.Proofs.Decimal.Order
import CrossPool.Proofs.Binary64.Unit
import CrossPool.Proofs.Monitor.Step
import CrossPool.Proofs.Monitor.Reachable
import CrossPool.Proofs.Detector.Create
import CrossPool.Proofs.Scan.Admissible
import CrossPool.Proofs.Binary64.Bits
import CrossPool.Proofs.Binary64.Convert
import CrossPool.Proofs.Monitor.Prune
import CrossPool.Proofs.Monitor.Windows
import CrossPool.Proofs.Scan.Frame
import CrossPool.Proofs.Config.Fields
import CrossPool.Proofs.Detector.WellFormed
import CrossPool.Proofs.Config.Accepted
import CrossPool.Proofs.Scan.Ranking
import CrossPool.Proofs.Swap.Output
import CrossPool.Proofs.Detector.Grid
import CrossPool.Proofs.Scan.Search
import CrossPool.Proofs.Monitor.Update
import CrossPool.Proofs.Decimal.Signed
import CrossPool.Proofs.Monitor.Impact
import CrossPool.Proofs.Monitor.BestPool
import CrossPool.Proofs.Binary64.Shortest
import CrossPool.Proofs.Decimal.ReadFloat
import CrossPool.Proofs.Trade.Profit
import CrossPool.Proofs.Scan.Covered
import CrossPool.Proofs.Scan.Cancel
import CrossPool.Proofs.Decimal.Raw
import CrossPool.Proofs.Detector.GridShape
import CrossPool.Proofs.Trade.Confidence
import CrossPool.Proofs.Stability.History
import CrossPool.Proofs.Detector.Thread
