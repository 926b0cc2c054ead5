import Heartbeat.Ini.Printer
import Heartbeat.Instance.Description
import Heartbeat.Main
import Heartbeat.Proofs.Transition
import Heartbeat.Proofs.UndisturbedRun
import Heartbeat.Proofs.ConditionalRun
import Heartbeat.Proofs.TraceLanguage
import Heartbeat.Proofs.BinaryRounding
import Heartbeat.Proofs.RoundingLaws
import Heartbeat.Proofs.StallLength
import Heartbeat.Proofs.StallRange
import Heartbeat.Proofs.StallRun
import Heartbeat.Proofs.ExactStall
import Heartbeat.Proofs.ReportedWait
import Heartbeat.Proofs.Delivery
import Heartbeat.Proofs.PayloadText
import Heartbeat.Proofs.Cadence
import Heartbeat.Proofs.DrivenRun
import Heartbeat.Proofs.DrawRange
import Heartbeat.Proofs.ObservationWindow
import Heartbeat.Proofs.TraceFindings
import Heartbeat.Proofs.ScenarioInstances
import Heartbeat.Proofs.CrashScenarios
import Heartbeat.Proofs.SilentScenarios
import Heartbeat.Proofs.ScenarioSuccess
import Heartbeat.Proofs.OutageIndependence
import Heartbeat.Proofs.FaithfulRecord
import Heartbeat.Proofs.StepGuard
import Heartbeat.Proofs.PlainText
import Heartbeat.Proofs.DocumentRoundTrip
import Heartbeat.Proofs.StoreContents
import Heartbeat.Proofs.SimpleNames
import Heartbeat.Proofs.LayoutAgreement
import Heartbeat.Proofs.ApplicationSections
import Heartbeat.Proofs.AccountedDefaults
import Heartbeat.Proofs.RequiredPort
import Heartbeat.Proofs.InstanceIsolation
import Heartbeat.Proofs.LowerNames
import Heartbeat.Proofs.TreeGrowth
import Heartbeat.Proofs.LoadingOutcome
import Heartbeat.Proofs.LastLine
import Heartbeat.Proofs.DisplayNames
import Heartbeat.Proofs.Interference
import Heartbeat.Proofs.SendDiscipline
import Heartbeat.Proofs.SteadyProgress
import Heartbeat.Proofs.TimeAccount
import Heartbeat.Proofs.SoleFault
import Heartbeat.Proofs.ObserverIndependence
import Heartbeat.Proofs.DelayTranslation
import Heartbeat.Proofs.HorizonExtension
import Heartbeat.Proofs.PayloadGrammar
import Heartbeat.Proofs.RejectionSampling
import Heartbeat.Proofs.JitterDraws
import Heartbeat.Proofs.StoredNames
import Heartbeat.Proofs.RunLog
import Heartbeat.Proofs.NumeralGrammar
import Heartbeat.Proofs.NormalArguments
import Heartbeat.Proofs.TypedLookups
import Heartbeat.Proofs.SharedRecorder
import Heartbeat.Proofs.ShortestDecimal
import Heartbeat.Proofs.JsonGrammar
import Heartbeat.Proofs.BatchRuns
import Heartbeat.Proofs.BatchSummary
