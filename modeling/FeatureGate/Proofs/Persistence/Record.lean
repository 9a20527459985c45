import FeatureGate.Proofs.Conduct
import FeatureGate.Proofs.Resolution.Race
import FeatureGate.Proofs.Store.Footprint
import FeatureGate.Proofs.Transcript

/-!
# What is on record

What is known of the world here is the rows of a store in memory, and all that was
asked and replied so far. Nothing is said of the time, the closures, the groups and
the listener: they may answer whatever they like, and change as they like. A record
is kept as a transcript is, with the rows read off the state
(`Record.admits_transcribing`).

From such a record it can be read how often a first value was evaluated for a
feature and a context key. An evaluation is followed at once by the first write of
what came out (`Orderly`), so the first writes of a row are the evaluations for it.
-/

namespace FeatureGate

open Store (Rows)
open Resolver (insertReply?)

/-- **What surrounds resolvers**: a store in memory, and others that have nothing to
do with its rows. -/
structure Surroundings (σ : Type) where
  /-- The answers to requests. -/
  answer : (request : Request) → StateM σ request.Reply
  /-- The rows of the store. -/
  rows : σ → Rows
  /-- The store answers as one in memory does. -/
  store (call : Store.Call) (s : σ) : ((answer (.store call)).run s).1 = ((rows s).answer call).1
    ∧ rows ((answer (.store call)).run s).2 = ((rows s).answer call).2
  /-- Nobody else changes its rows. -/
  other {request : Request} (h : ∀ call, request ≠ .store call) (s : σ) :
    rows ((answer request).run s).2 = rows s

/-- A world with a store in memory, and with a source of membership. -/
def Surroundings.world (membership : Membership) : Surroundings (World Rows) where
  answer := World.answer Store.memory membership
  rows world := world.store
  store _ _ := ⟨rfl, rfl⟩
  other {request} h _ := by
    cases request with
    | store call => exact absurd rfl (h call)
    | _ => rfl

/-- **A record**: the rows of a store, and all that was asked and replied so far. -/
structure Record where
  /-- The rows. -/
  rows : Rows
  /-- The requests and the replies to them, oldest first. -/
  history : List (Exchange Resolver.interface)

/-- What a request and the reply to it say of the rows. -/
def Record.Tells (before after : Record) : (request : Request) → request.Reply → Prop
  | .store call, reply =>
    reply = (before.rows.answer call).1 ∧ after.rows = (before.rows.answer call).2
  | _, _ => after.rows = before.rows

/-- **Anything may be asked**; the store answers as its rows say. -/
def Record.protocol : Protocol Resolver.interface Record where
  Allows _ _ := True
  Gives before request reply after :=
    after.history = before.history ++ [⟨request, reply⟩] ∧ before.Tells after request reply

/-- **The record of a state** in which all that is asked is written down. -/
def Record.ofState {σ : Type} (rows : σ → Rows) (s : σ × List (Exchange Resolver.interface)) :
    Record :=
  ⟨rows s.1, s.2⟩

/-- **A record is kept** of answers that a protocol of records gives, one exchange after
another. -/
theorem Record.admits_transcribing {σ : Type} {rows : σ → Rows}
    {answer : (request : Request) → StateM σ request.Reply}
    {protocol : Protocol Resolver.interface Record}
    (h : ∀ s history request, protocol.Gives ⟨rows s, history⟩ request ((answer request).run s).1
      ⟨rows ((answer request).run s).2, history ++ [⟨request, ((answer request).run s).1⟩]⟩) :
    protocol.Admits (Resolver.transcribing answer) fun known s => known = .ofState rows s := by
  rintro _ s request rfl -
  exact ⟨_, h s.1 s.2 request, rfl⟩

namespace Surroundings

variable {σ : Type} (around : Surroundings σ)

/-- **The answers to requests, put on record.** -/
def recording (request : Request) :
    StateM (σ × List (Exchange Resolver.interface)) request.Reply :=
  Resolver.transcribing around.answer request

/-- The record of a state. -/
def record (s : σ × List (Exchange Resolver.interface)) : Record := .ofState around.rows s

theorem admits_recording :
    Record.protocol.Admits around.recording fun known s => known = around.record s := by
  refine Record.admits_transcribing fun s history request => ⟨rfl, ?_⟩
  cases request with
  | store call => exact around.store call s
  | _ => exact around.other (by rintro _ ⟨⟩) s

end Surroundings

/-! ## Evaluations -/

/-- Whether a request is to evaluate a closure. -/
def Request.IsEvaluation : Request → Prop
  | .compute .. => True
  | _ => False

/-- **Histories in which every evaluation is followed by the first write** of what came
out, for some feature and context key. -/
inductive Orderly : List (Exchange Resolver.interface) → Prop
  /-- Nothing happened. -/
  | nil : Orderly []
  /-- Something else was asked. -/
  | other {history : List (Exchange Resolver.interface)} {exchange : Exchange Resolver.interface} :
    Orderly history → ¬ Request.IsEvaluation exchange.call → Orderly (history ++ [exchange])
  /-- A closure was evaluated, and its payload written. -/
  | evaluated {history : List (Exchange Resolver.interface)} (closure : Closure)
    (context : Context) (feature key : String) (payload : Payload)
    (reply : Except StoreError Unit) :
    Orderly history → Orderly (history ++ [⟨.compute closure context, payload⟩,
      ⟨.store (.insert feature key payload), reply⟩])

namespace Record

/-- Whether a row was to be written for the first time. -/
def isFirstWrite (feature key : String) (exchange : Exchange Resolver.interface) : Bool :=
  (insertReply? feature key exchange).isSome

/-- **How often a first value was evaluated** for a feature and a context key: how often
it was to be written. -/
def evaluations (feature key : String) (history : List (Exchange Resolver.interface)) : Nat :=
  history.countP (isFirstWrite feature key)

/-- **How many first values are wanting**: one if there is no row. -/
def vacancy (known : Record) (feature key : String) : Nat :=
  if (known.rows.get? feature key).isSome then 0 else 1

/-- A row has a value. -/
def Holds (known : Record) (feature key : String) (value : FeatureValue) : Prop :=
  ∃ payload, known.rows.get? feature key = some payload ∧ value = .ofPayload payload

/-- **A record that goes on from another one** as far as a row is concerned: the row is
still there if it was, and a first value was evaluated no more often than one was
wanting. -/
structure Continues (origin : Record) (feature key : String) (known : Record) : Prop where
  /-- A row that was there is as it was. -/
  persists {payload : Payload} : origin.rows.get? feature key = some payload →
    known.rows.get? feature key = some payload
  /-- Each evaluation made up for a row that was wanting. -/
  tally : evaluations feature key known.history + known.vacancy feature key
    ≤ evaluations feature key origin.history + origin.vacancy feature key

variable {origin known after : Record} {feature key : String} {value : FeatureValue}
  {request : Request} {reply : request.Reply}

namespace Continues

theorem refl (known : Record) (feature key : String) : known.Continues feature key known :=
  ⟨fun h => h, Nat.le_refl _⟩

theorem trans (h : origin.Continues feature key known)
    (hafter : known.Continues feature key after) : origin.Continues feature key after :=
  ⟨fun hrow => hafter.persists (h.persists hrow), Nat.le_trans hafter.tally h.tally⟩

theorem holds (h : origin.Continues feature key known) (hvalue : origin.Holds feature key value) :
    known.Holds feature key value := by
  obtain ⟨payload, hrow, hvalue⟩ := hvalue
  exact ⟨payload, h.persists hrow, hvalue⟩

/-- **A row stays as it is** if it is the same after a request that is no first write of
it. -/
theorem of_row_eq (hgives : protocol.Gives known request reply after)
    (hwrite : isFirstWrite feature key ⟨request, reply⟩ = false)
    (hrow : after.rows.get? feature key = known.rows.get? feature key) :
    known.Continues feature key after := by
  refine ⟨hrow.trans, Nat.le_of_eq ?_⟩
  unfold evaluations vacancy
  rw [hgives.1, List.countP_append, List.countP_singleton, hwrite, hrow]
  rfl

end Continues

/-- A request about other rows, or about none, leaves a row as it is. -/
theorem row_eq_of_gives (hgives : protocol.Gives known request reply after)
    (hwrites : ∀ call, request = .store call → ¬ call.Writes ⟨feature, key⟩) :
    after.rows.get? feature key = known.rows.get? feature key := by
  cases request with
  | store call =>
    rw [hgives.2.2]
    exact Rows.get?_answer_of_not_writes (hwrites call rfl)
  | _ => rw [show after.rows = known.rows from hgives.2]

/-- A request about other rows is no first write of a row. -/
theorem isFirstWrite_eq_false
    (hwrites : ∀ call, request = .store call → ¬ call.Writes ⟨feature, key⟩) :
    isFirstWrite feature key ⟨request, reply⟩ = false := by
  unfold isFirstWrite
  cases request with
  | store call =>
    cases call with
    | insert f k payload =>
      have hne : ¬ (f = feature ∧ k = key) := fun hat =>
        hwrites _ rfl (Rows.address_inj.mpr ⟨hat.1.symm, hat.2.symm⟩)
      simp [insertReply?, hne]
    | _ => rfl
  | _ => rfl

/-- **A request about other rows** changes nothing as far as a row is concerned. -/
theorem continues_of_gives (hgives : protocol.Gives known request reply after)
    (hwrites : ∀ call, request = .store call → ¬ call.Writes ⟨feature, key⟩) :
    known.Continues feature key after :=
  .of_row_eq hgives (isFirstWrite_eq_false hwrites) (row_eq_of_gives hgives hwrites)

/-- **A first write of a row that is wanting** makes up for an evaluation. -/
theorem continues_of_insert {f k : String} {payload : Payload} {reply : Except StoreError Unit}
    (hgives : protocol.Gives known (.store (.insert f k payload)) reply after)
    (hrow : known.rows.get? f k = none) : known.Continues feature key after := by
  by_cases hat : (⟨feature, key⟩ : Store.Address) = ⟨f, k⟩
  · -- one evaluation more, and one row less that is wanting
    cases hat
    have hafter : after.rows.get? feature key = some payload := by
      rw [hgives.2.2, Rows.answer_insert_of_none hrow, Rows.get?_insert, if_pos ⟨rfl, rfl⟩]
    have hwrite : isFirstWrite feature key ⟨.store (.insert feature key payload), reply⟩
        = true := by
      simp [isFirstWrite, insertReply?]
    refine ⟨fun h => absurd (hrow.symm.trans h) (Option.some_ne_none _).symm, Nat.le_of_eq ?_⟩
    unfold evaluations vacancy
    rw [hgives.1, List.countP_append, List.countP_singleton, hwrite, hafter, hrow]
    rfl
  · exact continues_of_gives hgives fun _ heq => by cases heq; exact hat

end Record

end FeatureGate
