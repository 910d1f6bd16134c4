import NetworkMapper.Resolution.Growth
import NetworkMapper.Observations.ReplayRoundTrip
import NetworkMapper.Discovery.Subjects
import NetworkMapper.Discovery.MacEdges
import NetworkMapper.Discovery.Isolation
import NetworkMapper.Discovery.IdentityEvidence
import NetworkMapper.Discovery.ArpOctets
import NetworkMapper.Comparison.ProjectComparator
import NetworkMapper.Classification.Growth
import NetworkMapper.Knowledge.Runs
import NetworkMapper.Project.Serializer
import NetworkMapper.Devtools.ReplayMatches
import NetworkMapper.Devtools.ReplayExits
import NetworkMapper.Classification.RedirectNotices
import NetworkMapper.Classification.Precedence
import NetworkMapper.Classification.LetterCase
import NetworkMapper.Developer.BenchmarkRunner
import NetworkMapper.Devtools.ReplayDifferences
import NetworkMapper.Discovery.TableJoins
import NetworkMapper.Discovery.MacSpelling
import NetworkMapper.Discovery.EnrichmentFrame
import NetworkMapper.Reporting.Lossless
import NetworkMapper.Knowledge.MissingFields
import NetworkMapper.Developer.ReportBalance
import NetworkMapper.Devtools.CompareBalance
import NetworkMapper.Discovery.LocalSubnet
import NetworkMapper.Runtime.RunEvents
import NetworkMapper.Discovery.ScanCoverage
import NetworkMapper.Discovery.TableAccounts
import NetworkMapper.Exporters.Inventory
import NetworkMapper.Reporting.RunReports
import NetworkMapper.Runtime.Startup
import NetworkMapper.Reporting.TornFiles
import NetworkMapper.Knowledge.Interrupted
import NetworkMapper.Knowledge.Resaved
import NetworkMapper.Observations.Rewritten
import NetworkMapper.Reporting.PersistenceValidation
