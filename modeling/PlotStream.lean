import PlotStream.Main
import PlotStream.Proofs.Json.Constants
import PlotStream.Proofs.Json.Documents
import PlotStream.Proofs.Json.Legible
import PlotStream.Proofs.Log.SettingUp
import PlotStream.Proofs.Plot.Changes
import PlotStream.Proofs.Plot.CodeTrees
import PlotStream.Proofs.Plot.Columns
import PlotStream.Proofs.Plot.FaultKinds
import PlotStream.Proofs.Plot.FigureCode
import PlotStream.Proofs.Plot.IllFormed
import PlotStream.Proofs.Plot.LinkedRanges
import PlotStream.Proofs.Plot.Positions
import PlotStream.Proofs.Plot.Skeletons
import PlotStream.Proofs.Session.AnnouncedSize
import PlotStream.Proofs.Session.BrokenSockets
import PlotStream.Proofs.Session.Departures
import PlotStream.Proofs.Session.Exclusion
import PlotStream.Proofs.Session.FaultyPlots
import PlotStream.Proofs.Session.Holding
import PlotStream.Proofs.Session.KeepAlives
import PlotStream.Proofs.Session.LeaseAccount
import PlotStream.Proofs.Session.LeaseOrder
import PlotStream.Proofs.Session.NewestConnection
import PlotStream.Proofs.Session.Outcome
import PlotStream.Proofs.Session.Replay
import PlotStream.Proofs.Session.Runs
import PlotStream.Proofs.Session.StreamGates
import PlotStream.Proofs.Session.Traces
import PlotStream.Proofs.Session.WakeUps
import PlotStream.Proofs.Wire.GlyphSources
import PlotStream.Proofs.Wire.Replies
import PlotStream.Proofs.Wire.Stream
import PlotStream.Server
import PlotStream.Session.Moves
import PlotStream.Value.Array
