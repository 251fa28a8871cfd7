import BatchFetch.Breaker.Session
import BatchFetch.Cli.Run
import BatchFetch.Config.Load
import BatchFetch.Dispatch.Dispatcher
import BatchFetch.Endpoint.Session
import BatchFetch.Fetch.Http
import BatchFetch.Main
import BatchFetch.Proofs.Breaker.Session
import BatchFetch.Proofs.Breaker.Transitions
import BatchFetch.Proofs.Config.Decoding
import BatchFetch.Proofs.Cli.Verdict
import BatchFetch.Proofs.Dispatch.Attempts
import BatchFetch.Proofs.Dispatch.Building
import BatchFetch.Proofs.Dispatch.Counter
import BatchFetch.Proofs.Dispatch.Counting
import BatchFetch.Proofs.Dispatch.Course
import BatchFetch.Proofs.Dispatch.Cutting
import BatchFetch.Proofs.Dispatch.Durations
import BatchFetch.Proofs.Dispatch.Isolation
import BatchFetch.Proofs.Dispatch.Part
import BatchFetch.Proofs.Dispatch.Permits
import BatchFetch.Proofs.Dispatch.Plenty
import BatchFetch.Proofs.Dispatch.Protection
import BatchFetch.Proofs.Dispatch.Service
import BatchFetch.Proofs.Dispatch.Shift
import BatchFetch.Proofs.Dispatch.Tally
import BatchFetch.Proofs.Endpoint.Family
import BatchFetch.Proofs.Endpoint.Key
import BatchFetch.Proofs.Fetch.Responses
import BatchFetch.Proofs.Metrics
import BatchFetch.Proofs.RateLimit.Comparison
import BatchFetch.Proofs.RateLimit.Looking
import BatchFetch.Proofs.RateLimit.Session
import BatchFetch.Proofs.RateLimit.Waiting
import BatchFetch.Proofs.Report.Document
import BatchFetch.Proofs.Retry.Ceiling
import BatchFetch.Proofs.Shutdown.Propagation
import BatchFetch.RateLimit.Session
import BatchFetch.Report.Document
import BatchFetch.Retry.Policy
import BatchFetch.Shutdown.Forest
import BatchFetch.Url.Basic
