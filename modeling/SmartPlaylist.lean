import SmartPlaylist.Text.Blank
import SmartPlaylist.Json.Reader
import SmartPlaylist.Json.Writer
import SmartPlaylist.Definition.OfJson
import SmartPlaylist.Definition.Folder
import SmartPlaylist.Text.Width
import SmartPlaylist.Toml.Document
import SmartPlaylist.Yaml.Document
import SmartPlaylist.Filter.Predicate
import SmartPlaylist.Numeric.Place
import SmartPlaylist.Time.Rfc3339
import SmartPlaylist.Time.StoredText
import SmartPlaylist.Settings.Basic
import SmartPlaylist.Settings.EnvFile
import SmartPlaylist.Codec.Base64
import SmartPlaylist.Cipher.Gcm
import SmartPlaylist.Store.Library
import SmartPlaylist.Store.History
import SmartPlaylist.Store.RootPlaylists
import SmartPlaylist.Store.Candidates
import SmartPlaylist.Store.Snapshot
import SmartPlaylist.Store.Script
import SmartPlaylist.Session.Job
import SmartPlaylist.Playlist.Load
import SmartPlaylist.Playlist.Compile
import SmartPlaylist.Library.Pull
import SmartPlaylist.Url.Basic
import SmartPlaylist.Credential.Cache
import SmartPlaylist.Credential.Token
import SmartPlaylist.Authorization.Pkce
import SmartPlaylist.Authorization.Callback
import SmartPlaylist.WebApi.Client
import SmartPlaylist.Command.Invocation
import SmartPlaylist.Command.Plan
import SmartPlaylist.Main
import SmartPlaylist.Proofs.Filter.Matches
import SmartPlaylist.Proofs.Filter.Render
import SmartPlaylist.Proofs.Playlist.Compile
import SmartPlaylist.Proofs.Selection.Rotation
import SmartPlaylist.Proofs.Selection.Accounting
import SmartPlaylist.Proofs.Playlist.Policy
import SmartPlaylist.Proofs.Command.Build
import SmartPlaylist.Proofs.Selection.Violations
import SmartPlaylist.Proofs.Playlist.Sync
import SmartPlaylist.Proofs.Playlist.Load
import SmartPlaylist.Proofs.Playlist.Account
import SmartPlaylist.Proofs.Playlist.LoadAll
import SmartPlaylist.Proofs.Command.Load
import SmartPlaylist.Proofs.Store.Atomicity
import SmartPlaylist.Proofs.Store.LibraryMap
import SmartPlaylist.Proofs.Store.PlayLog
import SmartPlaylist.Proofs.Json.Fields
import SmartPlaylist.Proofs.Json.Record
import SmartPlaylist.Proofs.Numeric.Order
import SmartPlaylist.Proofs.Definition.Grammar
import SmartPlaylist.Proofs.Text.Trim
import SmartPlaylist.Proofs.Codec.Base64
import SmartPlaylist.Proofs.Json.RoundTrip
import SmartPlaylist.Proofs.Credential.Key
import SmartPlaylist.Proofs.Credential.Cache
import SmartPlaylist.Proofs.Credential.Damage
import SmartPlaylist.Proofs.Library.Metadata
import SmartPlaylist.Proofs.Library.SavedTracks
import SmartPlaylist.Proofs.WebApi.Renewal
import SmartPlaylist.Proofs.WebApi.Replace
import SmartPlaylist.Proofs.WebApi.Retry
import SmartPlaylist.Proofs.Playlist.Reports
import SmartPlaylist.Proofs.Playlist.Lookup
import SmartPlaylist.Proofs.Selection.Repeats
import SmartPlaylist.Proofs.Library.History
import SmartPlaylist.Proofs.Credential.Expiry
import SmartPlaylist.Proofs.Filter.Dimension
import SmartPlaylist.Proofs.Selection.Rested
import SmartPlaylist.Proofs.Authorization.Callback
import SmartPlaylist.Proofs.Authorization.AuthorizeUrl
import SmartPlaylist.Proofs.Settings.Precedence
import SmartPlaylist.Proofs.Settings.Mentioned
import SmartPlaylist.Proofs.Filter.Unconstrained
import SmartPlaylist.Proofs.Store.TimeColumn
import SmartPlaylist.Proofs.Time.Offset
import SmartPlaylist.Proofs.Library.Cursor
