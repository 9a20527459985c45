import FeatureGate.Redis.Address
import FeatureGate.Resolver.Define

/-!
# Building resolvers

A builder collects what a resolver is made of. Building checks the
configuration, then the aliases, connects to the server if there is one, and
then registers the definitions one after another. A definition that is
refused ends the building, but the registry keeps those registered before it.
-/

namespace FeatureGate

/-- **What a resolver is made of.** -/
structure Builder where
  /-- The settings. -/
  config : Config
  /-- The definitions to register, in order. -/
  definitions : List Definition
  /-- Whether there is a source of group membership. -/
  consultsGroups : Bool
  /-- Whether there is a listener. -/
  hasListener : Bool
  /-- The context to resolve for when none is given, if there is one. -/
  defaultContext : Option Context
  /-- The scope of contexts without one of their own. -/
  ambient : Option Scope
  /-- The URL of the server that stores the values, if one does. -/
  serverUrl : Option String
  /-- The network to connect on. -/
  network : Redis.Network

namespace Builder

/-- **A builder with nothing set**: the standard configuration, and no
definitions. -/
def standard : Builder := ⟨.standard, [], false, false, none, none, none, .empty⟩

instance : Inhabited Builder := ⟨standard⟩

/-- Store the entities of a kind under another name. -/
def storeKindAs (builder : Builder) (kind name : String) : Builder :=
  { builder with config.entityAliases := builder.config.entityAliases.insert kind name }

/-- Connect to the server, if there is one. -/
def connect (builder : Builder) : Except FeatureError Unit :=
  match builder.serverUrl with
  | some url => ((Redis.connect builder.network url).map fun _ => ()).mapError .store
  | none => .ok ()

/-- **The resolver**, if configuration and aliases are in order and the server
is there. -/
def resolver (builder : Builder) : Except FeatureError Resolver := do
  builder.config.validate
  let aliases ← Aliases.ofMap builder.config.entityAliases
  builder.connect
  return {
    aliases
    config := builder.config
    consultsGroups := builder.consultsGroups
    hasListener := builder.hasListener
    defaultContext := builder.defaultContext }

/-- Register the definitions. -/
def register (builder : Builder) (resolver : Resolver) : Resolver.Action Unit :=
  builder.definitions.forM resolver.define

/-- **Build a resolver**: check, then register the definitions. -/
def build (builder : Builder) : Resolver.Action Resolver := do
  let resolver ← Resolver.ofExcept builder.resolver
  builder.register resolver
  return resolver

end Builder

end FeatureGate
