import BlobDepot.Archive
import BlobDepot.BlobKey
import BlobDepot.Cache.Basic
import BlobDepot.Cache.Dial
import BlobDepot.Cache.Run
import BlobDepot.Cache.Tally
import BlobDepot.CacheUse
import BlobDepot.Decimal.Binary64
import BlobDepot.Decimal.Numeral
import BlobDepot.Decimal.Shortest
import BlobDepot.Depot
import BlobDepot.Fault
import BlobDepot.FileTree.Basic
import BlobDepot.FileTree.Errno
import BlobDepot.FileTree.Path
import BlobDepot.Http.CacheOption
import BlobDepot.Http.Exchange
import BlobDepot.Http.Form
import BlobDepot.Http.Message
import BlobDepot.Http.Target
import BlobDepot.Http.Token
import BlobDepot.Http.Upload
import BlobDepot.Launch
import BlobDepot.Log.Directive
import BlobDepot.Log.Event
import BlobDepot.Log.Filter
import BlobDepot.Log.Pattern
import BlobDepot.Log.Pattern.Brackets
import BlobDepot.Log.Pattern.Escape
import BlobDepot.Log.Pattern.Flags
import BlobDepot.Log.Pattern.Nesting
import BlobDepot.Main
import BlobDepot.Moment
import BlobDepot.Service
import BlobDepot.Settings
import BlobDepot.Text.Blank
import BlobDepot.Text.CodeRange
import BlobDepot.Text.Hex
import BlobDepot.Text.Json
import BlobDepot.Text.Letter
import BlobDepot.Text.Percent
import BlobDepot.Text.Quoted
import BlobDepot.Text.Unprintable
import BlobDepot.Proofs.KeyNames
import BlobDepot.Proofs.KeyPrefixes
import BlobDepot.Proofs.KeyGrammar
import BlobDepot.Proofs.FileTree.Walk
import BlobDepot.Proofs.FileTree.Effects
import BlobDepot.Proofs.FileTree.Paths
import BlobDepot.Proofs.FileTree.Twins
import BlobDepot.Proofs.FileTree.Onward
import BlobDepot.Proofs.FileTree.Growth
import BlobDepot.Proofs.Cache.Slots
import BlobDepot.Proofs.Cache.Sweep
import BlobDepot.Proofs.Cache.Selection
import BlobDepot.Proofs.Cache.Consistent
import BlobDepot.Proofs.Cache.Coherence
import BlobDepot.Proofs.Cache.Contents
import BlobDepot.Proofs.Cache.Latest
import BlobDepot.Proofs.Cache.SecondChance
import BlobDepot.Proofs.Cache.Queue
import BlobDepot.Proofs.Cache.Victims
import BlobDepot.Proofs.Cache.Balance
import BlobDepot.Proofs.Cache.Lasting
import BlobDepot.Proofs.Cache.Unguarded
import BlobDepot.Proofs.Cache.Words
import BlobDepot.Proofs.Cache.Recast
import BlobDepot.Proofs.Cache.Arrivals
import BlobDepot.Proofs.Cache.Repetition
import BlobDepot.Proofs.Cache.Newcomer
import BlobDepot.Proofs.Cache.Endings
import BlobDepot.Proofs.Archive.Uploads
import BlobDepot.Proofs.Archive.Blobs
import BlobDepot.Proofs.Archive.Reach
import BlobDepot.Proofs.Archive.Leftovers
import BlobDepot.Proofs.Archive.Room
import BlobDepot.Proofs.Archive.Effect
import BlobDepot.Proofs.Archive.Remains
import BlobDepot.Proofs.Archive.Twins
import BlobDepot.Proofs.Depot.Faithful
import BlobDepot.Proofs.Depot.Transparency
import BlobDepot.Proofs.Depot.Ledger
import BlobDepot.Proofs.Depot.Counts
import BlobDepot.Proofs.Depot.Alongside
import BlobDepot.Proofs.Depot.Twins
import BlobDepot.Proofs.Depot.Failures
import BlobDepot.Proofs.Depot.Prefixes
import BlobDepot.Proofs.Depot.Room
import BlobDepot.Proofs.Depot.Remains
import BlobDepot.Proofs.Depot.Opening
import BlobDepot.Proofs.Service.Requests
import BlobDepot.Proofs.Service.Uploads
import BlobDepot.Proofs.Service.Wording
import BlobDepot.Proofs.Service.Transcript
import BlobDepot.Proofs.Service.Statistics
import BlobDepot.Proofs.Service.Confinement
import BlobDepot.Proofs.Service.Absent
import BlobDepot.Proofs.Text.Encodings
import BlobDepot.Proofs.Settings.Numerals
import BlobDepot.Proofs.Settings.Variables
import BlobDepot.Proofs.Launch
