import Termite.Go.Time
import Termite.Go.Map
import Termite.Go.Strings
import Termite.Go.Regexp
import Termite.Go.Compile
import Termite.Go.Match
import Termite.Kube.Informer
import Termite.Proxy.RateLimiter
import Termite.Proxy.Route
import Termite.Proxy.Destination
import Termite.Proxy.Threshold
import Termite.Proxy.RouteManager
import Termite.Proxy.ModelPattern
import Termite.Proxy.ConvertRoute
import Termite.Proxy.RouteWatcher
import Termite.Proxy.K8sWatcher
import Termite.Operator.TermitePool
import Termite.Operator.TermiteRoute
import Termite.Operator.MatchSemantics
import Termite.Proxy.MatchRefinement
import Termite.Proxy.AdmittedRoute
import Termite.Codec
import Termite.RerankingCache
import Termite.ClipTokenizer
import Termite.Hugot
import Termite.EmbedderRegistry
import Termite.ClipEmbedder
import Termite.RerankingFlights
import Termite.RerankingStats
