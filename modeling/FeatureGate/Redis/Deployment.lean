import FeatureGate.Redis.Server
import FeatureGate.Redis.Store
import FeatureGate.Resolver.Build
import FeatureGate.World

/-!
# Resolvers on a server

A server with a resolver on it, and with stores that share it. The prefix of the
keys of a resolver comes from its configuration. A resolver that is built takes
the place of the one before; if it cannot be built, the one before stays.
-/

namespace FeatureGate.Redis

/-- A connection with a prefix that waits for a listing as long as any server
can take. -/
def Connection.patient (keyPrefix : String) : Connection := ⟨keyPrefix, 1000000⟩

/-- **A server with a resolver on it.** -/
structure Deployment where
  /-- The network of the server. -/
  network : Network
  /-- How the server lists its keys. -/
  listing : Listing
  /-- The world, with the server in it. -/
  world : World Server
  /-- The resolver, with its connection and its unit of work. -/
  resolver : Option (Connection × Resolver × Resolver.Work)

namespace Deployment

/-- A server with some contents, and no resolver yet. -/
def start (now : Instant) (network : Network) (listing : Listing)
    (contents : Contents) : Deployment :=
  ⟨network, listing, .start now (.holding contents) .empty, none⟩

/-- The server. -/
def server (deployment : Deployment) : Server := deployment.world.store

/-- Change the server. -/
def modifyServer (deployment : Deployment) (f : Server → Server) : Deployment :=
  { deployment with world.store := f deployment.server }

/-- The store of a connection to the server. -/
def store (deployment : Deployment) (connection : Connection) : Store (StateM Server) :=
  connection.store (Server.answer deployment.listing)

/-- Call the store of a connection. -/
def callStore (deployment : Deployment) (connection : Connection) (call : Store.Call) :
    call.Reply × Deployment :=
  let (reply, world) := (World.call (deployment.store connection) call).run deployment.world
  (reply, { deployment with world })

/-- **Build a resolver** that stores its values on the server, if its URL leads
there: its sort of store. -/
def build (deployment : Deployment) (builder : Builder) :
    Except FeatureError String × Deployment :=
  let connection := Connection.patient builder.config.keyPrefix
  let store := deployment.store connection
  let ((result, work), world) :=
    (World.run store .none { builder with network := deployment.network }.build
      (.start .empty builder.ambient)).run deployment.world
  match result with
  | .ok resolver =>
    (.ok store.kind,
      { deployment with world, resolver := some (connection, resolver, work) })
  | .error error => (.error error, { deployment with world })

/-- **Let the resolver do something**; nothing happens if there is none. -/
def act {α : Type} (deployment : Deployment) (action : Resolver → Resolver.Action α) :
    Option (Except FeatureError α × Deployment) := do
  let (connection, resolver, work) ← deployment.resolver
  let ((result, work), world) := (World.run (deployment.store connection) .none
    (action resolver) work).run deployment.world
  return (result, { deployment with world, resolver := some (connection, resolver, work) })

end Deployment

end FeatureGate.Redis
