import TlsProxyTunnel.Library.Delimiter
import TlsProxyTunnel.Library.Exposition
import TlsProxyTunnel.Library.Interleave
import TlsProxyTunnel.Library.Progress
import TlsProxyTunnel.Library.Template
import TlsProxyTunnel.Library.Text
import TlsProxyTunnel.Library.Transition
import TlsProxyTunnel.Tunnel
import TlsProxyTunnel.Delivery
import TlsProxyTunnel.ViaDefaults
import TlsProxyTunnel.Capacity
import TlsProxyTunnel.Staleness
import TlsProxyTunnel.SharedCache
import TlsProxyTunnel.Gauge
import TlsProxyTunnel.Serving
import TlsProxyTunnel.Survival
import TlsProxyTunnel.Validation
import TlsProxyTunnel.Binding
import TlsProxyTunnel.Padding
import TlsProxyTunnel.Verdict
import TlsProxyTunnel.StatusLine
import TlsProxyTunnel.Exchange
import TlsProxyTunnel.Classification
import TlsProxyTunnel.Retention
import TlsProxyTunnel.Substitution
import TlsProxyTunnel.Consistency
import TlsProxyTunnel.Metrics
import TlsProxyTunnel.LetterCase
import TlsProxyTunnel.Draining
import TlsProxyTunnel.StatsLog
import TlsProxyTunnel.Startup
import TlsProxyTunnel.Freshness
import TlsProxyTunnel.Backpressure
import TlsProxyTunnel.Scrape
import TlsProxyTunnel.LogLines
import TlsProxyTunnel.EndToEnd
