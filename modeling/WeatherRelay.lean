import WeatherRelay.Averager
import WeatherRelay.Calendar
import WeatherRelay.Comfort
import WeatherRelay.CommandLine
import WeatherRelay.Config
import WeatherRelay.Decimal.Basic
import WeatherRelay.Decimal.Reading
import WeatherRelay.Decimal.Shortest
import WeatherRelay.Dispatch.Delivery
import WeatherRelay.Dispatch.Dispatcher
import WeatherRelay.Files
import WeatherRelay.Intake
import WeatherRelay.Json.Document
import WeatherRelay.Json.Fields
import WeatherRelay.Json.Number
import WeatherRelay.Json.Printer
import WeatherRelay.Json.Token
import WeatherRelay.Json.Value
import WeatherRelay.Log
import WeatherRelay.Main
import WeatherRelay.Net.Address
import WeatherRelay.Net.Domain.Classes
import WeatherRelay.Net.Domain.Composition
import WeatherRelay.Net.Domain.Mapping
import WeatherRelay.Net.Domain.Name
import WeatherRelay.Net.Punycode
import WeatherRelay.Net.Url
import WeatherRelay.Observation
import WeatherRelay.Packet
import WeatherRelay.Pressure
import WeatherRelay.Program
import WeatherRelay.Proofs.Aprs.Columns
import WeatherRelay.Proofs.Aprs.Coordinates
import WeatherRelay.Proofs.Averager
import WeatherRelay.Proofs.Broker
import WeatherRelay.Proofs.Calendar
import WeatherRelay.Proofs.Compass
import WeatherRelay.Proofs.Conversion
import WeatherRelay.Proofs.Decimal
import WeatherRelay.Proofs.Dispatch.Drain
import WeatherRelay.Proofs.Dispatch.Ledger
import WeatherRelay.Proofs.Dispatch.Steps
import WeatherRelay.Proofs.Doubles
import WeatherRelay.Proofs.Doubles.Product
import WeatherRelay.Proofs.Doubles.Value
import WeatherRelay.Proofs.FilePath
import WeatherRelay.Proofs.Files
import WeatherRelay.Proofs.Gate
import WeatherRelay.Proofs.Packet
import WeatherRelay.Proofs.Pressure
import WeatherRelay.Proofs.Rainfall.Gauge
import WeatherRelay.Proofs.Rainfall.Restart
import WeatherRelay.Proofs.Rainfall.Restoring
import WeatherRelay.Proofs.Rainfall.Rolling
import WeatherRelay.Proofs.Rainfall.Run
import WeatherRelay.Proofs.Rainfall.Saving
import WeatherRelay.Proofs.Rainfall.Stamps
import WeatherRelay.Proofs.Rainfall.Windows
import WeatherRelay.Proofs.Rationals
import WeatherRelay.Proofs.Service.Account
import WeatherRelay.Proofs.Service.Calls
import WeatherRelay.Proofs.Service.Endings
import WeatherRelay.Proofs.Service.FanOut
import WeatherRelay.Proofs.Service.Frame
import WeatherRelay.Proofs.Service.Isolation
import WeatherRelay.Proofs.Service.Lifecycle
import WeatherRelay.Proofs.Service.Pipeline
import WeatherRelay.Proofs.Service.Refinement
import WeatherRelay.Proofs.Service.Shutdown
import WeatherRelay.Proofs.Station.Coherence
import WeatherRelay.Proofs.Station.Extremes
import WeatherRelay.Proofs.Station.Firing
import WeatherRelay.Proofs.Station.Gusts
import WeatherRelay.Proofs.Station.History
import WeatherRelay.Proofs.Station.Idle
import WeatherRelay.Proofs.Station.Ingest
import WeatherRelay.Proofs.Station.Order
import WeatherRelay.Proofs.Station.RainTotals
import WeatherRelay.Proofs.Station.Sensors
import WeatherRelay.Proofs.Station.TrendWindow
import WeatherRelay.Proofs.Topics
import WeatherRelay.Proofs.Upload
import WeatherRelay.Publish.Aprs
import WeatherRelay.Publish.Database
import WeatherRelay.Publish.Error
import WeatherRelay.Publish.Mqtt
import WeatherRelay.Publish.Outside
import WeatherRelay.Publish.Publisher
import WeatherRelay.Publish.Readout
import WeatherRelay.Publish.Upload
import WeatherRelay.Publish.WeatherTable
import WeatherRelay.Queue
import WeatherRelay.Rainfall.Accumulator
import WeatherRelay.Rainfall.Format
import WeatherRelay.Rainfall.Gauge
import WeatherRelay.Rainfall.Record
import WeatherRelay.Rainfall.Window
import WeatherRelay.Registry
import WeatherRelay.Scalar
import WeatherRelay.Scene
import WeatherRelay.Service
import WeatherRelay.ServiceKind
import WeatherRelay.Station
import WeatherRelay.Text.Basic
import WeatherRelay.Text.Percent
import WeatherRelay.Text.Visible
import WeatherRelay.Trigger
import WeatherRelay.Units
import WeatherRelay.Wind
import WeatherRelay.Word
import WeatherRelay.Yaml.Cursor
import WeatherRelay.Yaml.Node
import WeatherRelay.Yaml.Reading
import WeatherRelay.Yaml.Scalar
import WeatherRelay.Yaml.Tag
import WeatherRelay.Yaml.Token
