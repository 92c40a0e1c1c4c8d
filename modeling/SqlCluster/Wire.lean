import SqlCluster.Network
import SqlCluster.Note

/-!
Wires: the connection of a client to a network, with what was sent over it and what was noted on the
way, both oldest first.
-/

namespace SqlCluster

/-- A network with the requests sent into it and the notes taken. -/
structure Wire where
  network : Network
  sent : List Request
  notes : List Note

namespace Wire

/-- A wire into a network over which nothing was sent yet. -/
def ofNetwork (n : Network) : Wire := ⟨n, [], []⟩

/-- Takes a note. -/
def note (w : Wire) (n : Note) : Wire := { w with notes := w.notes ++ [n] }

/-- Sends a request and waits for what comes of it. Nothing comes of one to a host whose name
cannot be read. -/
def exchange (w : Wire) (r : Request) : Option Reply × Wire :=
  let w := { w with sent := w.sent ++ [r] }
  match r.url.host? with
  | none => (none, w)
  | some host =>
    let (reply, network) :=
      w.network.reply (Network.address host r.url.port?) (String.ofList r.url.pathText)
    (some reply, { w with network := network })

end Wire

end SqlCluster
