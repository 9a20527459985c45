import FeatureGate.Pool
import FeatureGate.Resolver.Build
import FeatureGate.Store.Gated
import FeatureGate.World

/-!
# Races of first resolutions

Forks of one resolver resolve the same feature for the same context at the same
time. Their store is gated, so that each of them has read once before any goes
on; then the last fork runs to its end, and after it the others in order. With
an empty store, all forks but the last meet the row that the last one wrote.
-/

namespace FeatureGate

namespace Race

/-- The state of the store of a race. -/
abbrev Stores := Store.Gate (Store.Recorded Store.Rows)

/-- **The store of a race**: gated, noting its calls, in memory. -/
def store : Store (StateM Stores) := Store.gated (Store.recording Store.memory)

/-- What is left of a fork: it will end with a value or an error, and a unit of
work. -/
abbrev Fork := Program Resolver.interface (Except FeatureError FeatureValue × Resolver.Work)

/-- The forks, and the world they share. -/
abbrev Forks := Pool Resolver.interface (Except FeatureError FeatureValue × Resolver.Work)
  (World Stores)

/-- Whether a request reads a row. -/
def isRead : Request → Bool
  | .store (.get ..) => true
  | _ => false

/-- **Run a race**: every fork past its first read, then the last to its end,
then the others to theirs. -/
def run (membership : Membership) (forks : Forks) : Forks :=
  let answer := World.answer store membership
  let order := List.range forks.programs.length
  let ready := order.foldl (fun forks i =>
    forks.advance (Program.runPast answer isRead) i) forks
  (order.drop (order.length - 1) ++ order.take (order.length - 1)).foldl (fun forks i =>
    forks.advance (Program.finish answer) i) ready

end Race

/-- **A race that is set up**: a resolver, how many forks of it take part, and
the world. -/
structure Race where
  /-- How many forks take part. -/
  readers : Nat
  /-- The groups. -/
  membership : Membership
  /-- The resolver. -/
  resolver : Resolver
  /-- Its unit of work. -/
  work : Resolver.Work
  /-- The world. -/
  world : World Race.Stores

namespace Race

/-- **Set a race up**: build the resolver over a store with some rows. -/
def prepare (now : Instant) (readers : Nat) (rows : Store.Rows) (closures : Closures)
    (builder : Builder) (membership : Option Membership) : Except FeatureError Race :=
  let builder := { builder with consultsGroups := membership.isSome }
  let membership := membership.getD .none
  let ((result, work), world) :=
    (World.run store membership builder.build (.start .empty builder.ambient)).run
      (.start now ⟨readers, ⟨[], rows⟩⟩ closures)
  result.map fun resolver => ⟨readers, membership, resolver, work, world⟩

/-- The forks at the start, each about to resolve a feature for a context. -/
def forks (race : Race) (feature : String) (context : Context) : Forks where
  programs := List.replicate race.readers
    ((race.resolver.resolve feature context).program race.work.fork)
  state := race.world

/-- **Let the forks resolve a feature** at the same time. -/
def resolve (race : Race) (feature : String) (context : Context) : Forks :=
  run race.membership (race.forks feature context)

/-- The number of retries that were reported. -/
def retries (events : List Event) : Nat :=
  (events.filter fun event => event.name = "race_retried").length

end Race

end FeatureGate
