import Acme.Core.Account
import Acme.Core.Authorization
import Acme.Core.Certificate
import Acme.Core.Challenge
import Acme.Core.Csr
import Acme.Core.Directory
import Acme.Core.Effect
import Acme.Core.Error
import Acme.Core.Issue
import Acme.Core.Jws
import Acme.Core.Libraries
import Acme.Core.Nonce
import Acme.Core.Order
import Acme.Core.PemChain
import Acme.Core.Records
import Acme.Core.Time
import Acme.Core.TlsAlpn01
import Acme.Core.Transport
import Acme.Dns.Cloudflare
import Acme.Dns.CloudflareWire
import Acme.Dns.Dns01
import Acme.Dns.Provider
import Acme.Encoding.Base64Url
import Acme.Encoding.HttpReply
import Acme.Encoding.Json
import Acme.Encoding.JsonLaws
import Acme.Encoding.Percent
import Acme.Encoding.PlainJson
import Acme.Encoding.Radix
import Acme.Encoding.Search
import Acme.Encoding.Serde
import Acme.Encoding.Split
import Acme.Encoding.Trimming
import Acme.Encoding.Uri
import Acme.Encoding.Utf8
import Acme.Http.Composed
import Acme.Http.ParseUrl
import Acme.Http.RoundTrip
import Acme.Http.WriteAll
import Acme.Interaction.Budget
import Acme.Interaction.Contract
import Acme.Interaction.Custody
import Acme.Interaction.Fallible
import Acme.Interaction.Handler
import Acme.Interaction.Interleaving
import Acme.Interaction.Memo
import Acme.Interaction.Program
import Acme.Interaction.Safety
import Acme.Interaction.Shelf
import Acme.Interaction.World
import Acme.Proofs.Asking
import Acme.Proofs.Authorized
import Acme.Proofs.CanonicalJwk
import Acme.Proofs.ChallengeMachine
import Acme.Proofs.CloudRuns
import Acme.Proofs.CloudServed
import Acme.Proofs.CloudService
import Acme.Proofs.CloudStore
import Acme.Proofs.CloudZones
import Acme.Proofs.CsrNames
import Acme.Proofs.Driving
import Acme.Proofs.Examined
import Acme.Proofs.Exchange
import Acme.Proofs.FreshNonces
import Acme.Proofs.Handles
import Acme.Proofs.HonestAuthority
import Acme.Proofs.HonestIssue
import Acme.Proofs.HostExchange
import Acme.Proofs.HostHurdles
import Acme.Proofs.HostResources
import Acme.Proofs.HttpProbe
import Acme.Proofs.IssueRun
import Acme.Proofs.JwsReader
import Acme.Proofs.KeyAuthorization
import Acme.Proofs.MockRecords
import Acme.Proofs.OnTheWire
import Acme.Proofs.OrderMachine
import Acme.Proofs.Orderly
import Acme.Proofs.Outline
import Acme.Proofs.Pacing
import Acme.Proofs.Panics
import Acme.Proofs.PemChain
import Acme.Proofs.PemSplitters
import Acme.Proofs.Polling
import Acme.Proofs.PoolLedger
import Acme.Proofs.Postings
import Acme.Proofs.Problems
import Acme.Proofs.Provenance
import Acme.Proofs.Provisioning
import Acme.Proofs.Purposes
import Acme.Proofs.Quiet
import Acme.Proofs.Refusals
import Acme.Proofs.Rejections
import Acme.Proofs.Requests
import Acme.Proofs.ResponderCert
import Acme.Proofs.RetryAfter
import Acme.Proofs.Rounds
import Acme.Proofs.ScriptedAuthority
import Acme.Proofs.Selection
import Acme.Proofs.Served
import Acme.Proofs.SharedPool
import Acme.Proofs.SharedProvider
import Acme.Proofs.SharedResolver
import Acme.Proofs.SharedServer
import Acme.Proofs.SignedRequests
import Acme.Proofs.SigningInput
import Acme.Proofs.Stages
import Acme.Proofs.StolenNonce
import Acme.Proofs.TarEntry
import Acme.Proofs.UrlSplit
import Acme.Proofs.WriteAll
import Acme.Proofs.ZoneCache
import Acme.Proofs.ZoneLookup
import Acme.Proofs.ZoneQuery
import Acme.Testing.HttpServer
import Acme.Testing.PemCerts
import Acme.Testing.Solvers
import Acme.Testing.Tar
