import Usteer.Margins
import Usteer.Heap
import Usteer.SearchTree
import Usteer.Words
import Usteer.Owners
import Usteer.Selection
import Usteer.Schedule
import Usteer.Timeout
import Usteer.TimeoutRuns
import Usteer.Model
import Usteer.Candidates
import Usteer.Monotonicity
import Usteer.Sta
import Usteer.HearingMap
import Usteer.Policy
import Usteer.RoamMachine
import Usteer.Remote
import Usteer.Wire
import Usteer.LocalNode
import Usteer.Links
import Usteer.Store
import Usteer.Moves
import Usteer.Handlers
import Usteer.Lifecycle
import Usteer.Runs
import Usteer.Datagrams
import Usteer.Expiry
import Usteer.Undisturbed
import Usteer.Effects
import Usteer.Arming
import Usteer.Blocking
import Usteer.Roaming
import Usteer.RemoteIndex
import Usteer.RemoteView
import Usteer.Convergence
import Usteer.Delivery
import Usteer.Ageing
import Usteer.Mirror
import Usteer.Codec
import Usteer.Kicks
import Usteer.Ubus
import Usteer.Settings
import Usteer.Search
import Usteer.Neighbors
import Usteer.Entries
import Usteer.Visits
import Usteer.BeaconRequests
import Usteer.Activity
import Usteer.LoadKick
import Usteer.Freed
import Usteer.Reconcile
import Usteer.Events
import Usteer.Requests
import Usteer.Reports
import Usteer.Signals
import Usteer.HearingThreshold
import Usteer.ScanResult
import Usteer.Vendor
import Usteer.Survey
import Usteer.SentAge
import Usteer.LoadDelay
import Usteer.MinClients
import Usteer.Gossip
import Usteer.Isolation
import Usteer.Messages
import Usteer.Network
import Usteer.Netifd
import Usteer.Host
import Usteer.Teardown
import Usteer.AssocLimit
import Usteer.Interfaces
import Usteer.Sockets
import Usteer.Vlist
import Usteer.Overview
import Usteer.SsidPurge
import Usteer.Monitor
