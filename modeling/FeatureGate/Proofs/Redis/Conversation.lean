import FeatureGate.Proofs.Protocol
import FeatureGate.Proofs.Redis.Effect
import FeatureGate.Proofs.Redis.Listing
import FeatureGate.Proofs.Running

/-!
# What a call does to a server

All that matters of a server to a store is what the keys hold (`View`). Whatever a call of
the store is answered, and whatever it changes, can be told from that
(`Connection.effect`), as long as the server refuses nothing and its listings are complete.

How long the store waits for a listing has no part in it, if it waits long enough: the
conversation is the same for every larger number of rounds
(`Connection.exists_hold_converse`).
-/

namespace FeatureGate.Redis

namespace Conversation

variable {α β : Type} (listing : Listing)

/-- **Hold a conversation** with a server. -/
def hold (conversation : Conversation α) (server : Server) : Except StoreError α × Server :=
  ((ExceptT.run conversation).interpret (I := interface) (Server.answer listing)).run server

theorem hold_bind (first : Conversation β) (next : β → Conversation α) (server : Server) :
    hold listing (first >>= next) server
      = match hold listing first server with
        | (.ok b, later) => hold listing (next b) later
        | (.error error, later) => (.error error, later) := by
  refine (Program.run_interpret_bind _ (ExceptT.run first) _ server).trans ?_
  unfold hold
  generalize ((ExceptT.run first).interpret (I := interface) (Server.answer listing)).run server
    = ran
  obtain ⟨outcome, later⟩ := ran
  cases outcome <;> rfl

end Conversation

namespace Conversation

variable (listing : Listing) {server : Server}

/-- What is asked of a server is answered. -/
theorem hold_request (command : Command) (server : Server) :
    hold listing (ExceptT.lift (Program.request (I := interface) command)) server
      = (.ok ((Server.answer listing command).run server).1,
          ((Server.answer listing command).run server).2) := rfl

/-- A command that is carried out is answered as the contents are, and has their effect. -/
theorem exists_run_answer (hready : server.errors = []) (command : Command)
    (hcarried : (Server.answer listing command).run server
      = (Server.carryOut listing command).run server) :
    ∃ later, later.errors = [] ∧ later.contents = (server.contents.answer listing command).2
      ∧ (Server.answer listing command).run server
        = ((server.contents.answer listing command).1, later) := by
  rw [hcarried]
  unfold Server.carryOut
  rw [StateT.run, hready]
  exact ⟨{ server with received := _, contents := _, errors := [] }, rfl, rfl, rfl⟩

/-- **A command that is carried out** is sent. -/
theorem exists_hold_send (hready : server.errors = []) (command : Command)
    (hcarried : (Server.answer listing command).run server
      = (Server.carryOut listing command).run server) :
    ∃ later, later.errors = [] ∧ later.contents = (server.contents.answer listing command).2
      ∧ hold listing (send command) server
        = ((server.contents.answer listing command).1.mapError .server, later) := by
  obtain ⟨later, hlater, hcontents, hrun⟩ := exists_run_answer listing hready command hcarried
  refine ⟨later, hlater, hcontents, ?_⟩
  unfold send
  rw [hold_bind, hold_request, hrun]
  dsimp only
  cases (server.contents.answer listing command).1 <;> rfl

/-- **The script for overwriting** is there in the end, whether it was before or not. -/
theorem exists_hold_overwrite (hready : server.errors = []) (key value : String) :
    ∃ later, later.errors = []
      ∧ later.contents = (server.contents.change key (·.map fun _ _ => value)).2
      ∧ hold listing (overwrite key value) server
        = ((server.contents.change key (·.map fun _ _ => value)).1.mapError .server, later) := by
  have hcarried : ∀ {server : Server}, server.hasScript = true →
      (Server.answer listing (.setAll key value)).run server
        = (Server.carryOut listing (.setAll key value)).run server := fun h => if_pos h
  by_cases hscript : server.hasScript = true
  · obtain ⟨later, hlater, hcontents, hrun⟩ :=
      exists_run_answer listing hready (.setAll key value) (hcarried hscript)
    refine ⟨later, hlater, hcontents, ?_⟩
    unfold overwrite
    rw [hold_bind, hold_request, hrun]
    have hanswer : server.contents.answer listing (.setAll key value)
        = server.contents.change key (·.map fun _ _ => value) := rfl
    rw [hanswer]
    unfold Contents.change
    cases server.contents.fields? key <;> rfl
  · -- the script is missed, and given to the server before it is asked again
    have hmissed : (Server.answer listing (.setAll key value)).run server
        = (.error Server.noScript, server) := if_neg hscript
    have hgiven : hold listing (send .loadScript) server
        = (.ok (), { server with hasScript := true }) := rfl
    have hready' : ({ server with hasScript := true } : Server).errors = [] := hready
    obtain ⟨later, hlater, hcontents, hsend⟩ :=
      exists_hold_send listing hready' (.setAll key value) (hcarried rfl)
    refine ⟨later, hlater, hcontents, ?_⟩
    unfold overwrite
    rw [hold_bind, hold_request, hmissed]
    dsimp only
    rw [if_pos (by decide), hold_bind, hgiven]
    exact hsend

/-- **Keys are removed**, if there are any. -/
theorem exists_hold_removeKeys (hready : server.errors = []) (keys : List String) :
    ∃ later, later.errors = []
      ∧ later.contents = keys.foldl (fun contents key => contents.erase key) server.contents
      ∧ hold listing (Connection.removeKeys keys) server = (.ok (), later) := by
  unfold Connection.removeKeys
  cases keys with
  | nil => exact ⟨server, hready, rfl, rfl⟩
  | cons key keys => exact exists_hold_send listing hready (.remove (key :: keys)) rfl

/-- **A listing is waited for** to the end of its cycle, if the store waits long enough. -/
theorem exists_hold_listFrom {connection : Connection} {keys : List String} {cursor : Nat}
    {found : List String} (hcycle : listing.Cycle keys connection.pattern cursor found)
    (hready : server.errors = []) (hkeys : server.contents.keys = keys) :
    ∃ later, later.errors = [] ∧ later.contents = server.contents
      ∧ ∃ enough, ∀ rounds ≥ enough,
        hold listing (connection.listFrom rounds cursor) server = (.ok found, later) := by
  have hscan : ∀ {server : Server} (cursor : Nat), server.errors = [] →
      server.contents.keys = keys →
      ∃ later, later.errors = [] ∧ later.contents = server.contents
        ∧ hold listing (send (.scan cursor connection.pattern Connection.roundSize)) server
          = (.ok (listing.round keys cursor connection.pattern), later) := by
    rintro server cursor hready rfl
    exact exists_hold_send listing hready (.scan cursor connection.pattern Connection.roundSize) rfl
  induction hcycle generalizing server with
  | @last cursor batch hround =>
    obtain ⟨later, hlater, hcontents, hscan⟩ := hscan cursor hready hkeys
    refine ⟨later, hlater, hcontents, 1, fun rounds hrounds => ?_⟩
    obtain ⟨rounds, rfl⟩ := Nat.exists_eq_add_of_le' hrounds
    unfold Connection.listFrom
    rw [hold_bind, hscan, hround]
    rfl
  | @more cursor next batch rest hround hnext _ ih =>
    obtain ⟨later, hlater, hcontents, hscan⟩ := hscan cursor hready hkeys
    rw [← hcontents] at hkeys
    obtain ⟨last, hlast, hcontents', enough, hrest⟩ := ih hlater hkeys
    refine ⟨last, hlast, hcontents'.trans hcontents, enough + 1, fun rounds hrounds => ?_⟩
    obtain ⟨rounds, rfl⟩ := Nat.exists_eq_add_of_le' (Nat.le_of_add_left_le hrounds)
    unfold Connection.listFrom
    rw [hold_bind, hscan, hround]
    dsimp only
    rw [if_neg hnext, hold_bind, hrest rounds (by omega)]
    rfl

end Conversation

/-! ## Calls -/

namespace Connection

variable {connection : Connection} (listing : Listing) {server : Server} {view : View}

open Conversation (hold)

/-- **A change of a hash** is seen. -/
theorem exists_hold_change (h : server.Shows view) {conversation : Conversation Unit}
    {key : String} {f : Fields → Fields}
    (hchange : ∃ later, later.errors = []
      ∧ later.contents = (server.contents.change key f).2
      ∧ hold listing conversation server
        = ((server.contents.change key f).1.mapError .server, later)) :
    ∃ later, later.Shows (view.change key f).2
      ∧ hold listing conversation server = ((view.change key f).1, later) := by
  obtain rfl := h.holds
  obtain ⟨later, hready, hcontents, hhold⟩ := hchange
  refine ⟨later, ⟨hready, ?_⟩, hhold.trans (congrArg (·, later) ?_)⟩
  · rw [hcontents]
    unfold Contents.change View.change
    cases server.contents.fields? key with
    | none => rfl
    | some fields => exact server.contents.fields?_put key (f fields)
  · unfold Contents.change View.change
    cases server.contents.fields? key <;> rfl

/-- **A read of a field** is answered as it is seen. -/
theorem exists_run_get (h : server.Shows view) (key field : String) :
    ∃ later, later.Shows view
      ∧ (Server.answer listing (.get key field)).run server = (view.field key field, later) := by
  obtain rfl := h.holds
  obtain ⟨later, hlater, hcontents, hrun⟩ :=
    Conversation.exists_run_answer listing h.ready (.get key field) rfl
  have hanswer : server.contents.answer listing (.get key field)
      = (View.field server.contents.fields? key field, server.contents) := by
    unfold Contents.answer View.field
    dsimp only
    cases server.contents.fields? key <;> rfl
  rw [hanswer] at hcontents hrun
  exact ⟨later, ⟨hlater, congrArg _ hcontents⟩, hrun⟩

/-- A read of fields is a read of the first, and then of the others. -/
theorem run_readFields_cons (feature field : String) (rest : List (String × String)) :
    ((connection.readFields ((feature, field) :: rest)).interpret (Server.answer listing)).run
        server
      = (let read := (Server.answer listing (.get (connection.key feature) field)).run server
         let others := ((connection.readFields rest).interpret (Server.answer listing)).run read.2
         (read.1 :: others.1, others.2)) :=
  Program.run_interpret_bind (Server.answer listing) (connection.readFields rest) _ _

/-- **Reads of many fields** are answered as each of them is. -/
theorem exists_run_readFields (connection : Connection) (h : server.Shows view)
    (pairs : List (String × String)) :
    ∃ later, later.Shows view
      ∧ ((connection.readFields pairs).interpret (Server.answer listing)).run server
        = (pairs.map fun pair => view.field (connection.key pair.1) pair.2, later) := by
  induction pairs generalizing server with
  | nil => exact ⟨server, h, rfl⟩
  | cons pair rest ih =>
    obtain ⟨feature, field⟩ := pair
    obtain ⟨later, hlater, hrun⟩ :=
      exists_run_get listing h (connection.key feature) field
    obtain ⟨last, hlast, hrest⟩ := ih hlater
    refine ⟨last, hlast, ?_⟩
    rw [run_readFields_cons, hrun]
    dsimp only
    rw [hrest]
    rfl

/-! ### Calls -/

theorem exists_hold_get (connection : Connection) (h : server.Shows view) (feature key : String) :
    ∃ later, later.Shows view ∧ hold listing (connection.converse (.get feature key)) server
      = (decodeField (view.field (connection.key feature) key), later) := by
  obtain ⟨later, hlater, hrun⟩ :=
    exists_run_get listing h (connection.key feature) key
  refine ⟨later, hlater, ?_⟩
  unfold converse send
  dsimp only
  rw [Conversation.hold_bind, Conversation.hold_bind, Conversation.hold_request, hrun]
  dsimp only
  cases view.field (connection.key feature) key <;> rfl

theorem exists_hold_getMany (h : server.Shows view) (pairs : List (String × String)) :
    ∃ later, later.Shows view ∧ hold listing (connection.converse (.getMany pairs)) server
      = ((pairs.map fun pair => view.field (connection.key pair.1) pair.2).mapM decodeField,
          later) := by
  obtain ⟨later, hlater, hrun⟩ :=
    exists_run_readFields listing connection h pairs
  have hlift : hold listing (ExceptT.lift (connection.readFields pairs)) server
      = (.ok (pairs.map fun pair => view.field (connection.key pair.1) pair.2), later) := by
    refine (Program.run_interpret_bind (Server.answer listing) (connection.readFields pairs) _
      _).trans ?_
    rw [hrun]
    rfl
  refine ⟨later, hlater, ?_⟩
  unfold converse
  dsimp only
  rw [Conversation.hold_bind, hlift]
  rfl

/-- **A first write** is refused by the server if there is a field. -/
theorem exists_hold_insert (h : server.Shows view) (feature key : String) (value : Payload) :
    ∃ later, later.Shows (connection.effect view (.insert feature key value)).2
      ∧ hold listing (connection.converse (.insert feature key value)) server
        = ((connection.effect view (.insert feature key value)).1, later) := by
  obtain rfl := h.holds
  obtain ⟨later, hlater, hcontents, hsend⟩ := Conversation.exists_hold_send listing
    h.ready (.setNew (connection.key feature) key (encode value)) rfl
  refine ⟨later, ⟨hlater, (congrArg _ hcontents).trans ?_⟩, ?_⟩
  · unfold effect Contents.answer
    dsimp only
    cases server.contents.fields? (connection.key feature) with
    | none => rfl
    | some fields =>
      dsimp only
      split
      · rfl
      · exact server.contents.fields?_put ..
  · unfold converse effect
    dsimp only
    rw [Conversation.hold_bind, hsend]
    unfold Contents.answer
    dsimp only
    cases server.contents.fields? (connection.key feature) with
    | none => rfl
    | some fields =>
      dsimp only
      cases fields.contains key <;> rfl

/-- **A call that lists nothing** comes to its effect. -/
theorem exists_hold_converse_of_direct (connection : Connection) (h : server.Shows view)
    {call : Store.Call} (hdirect : call ≠ .purge none) :
    ∃ later, later.Shows (connection.effect view call).2
      ∧ hold listing (connection.converse call) server
        = ((connection.effect view call).1, later) := by
  cases call with
  | get feature key => exact exists_hold_get listing connection h feature key
  | getMany pairs => exact exists_hold_getMany listing h pairs
  | insert feature key value => exact exists_hold_insert listing h feature key value
  | set feature key value =>
    exact exists_hold_change listing h (Conversation.exists_hold_send listing h.ready
      (.set (connection.key feature) key (encode value)) rfl)
  | setForAll feature value =>
    exact exists_hold_change listing h (Conversation.exists_hold_overwrite listing h.ready
      (connection.key feature) (encode value))
  | delete feature key =>
    exact exists_hold_change listing h (Conversation.exists_hold_send listing h.ready
      (.removeField (connection.key feature) key) rfl)
  | purge features =>
    cases features with
    | none => exact absurd rfl hdirect
    | some names =>
      obtain ⟨later, hlater, hcontents, hremove⟩ := Conversation.exists_hold_removeKeys
        listing h.ready (names.map connection.key)
      refine ⟨later, ⟨hlater, ?_⟩, hremove⟩
      rw [hcontents, Contents.fields?_foldl_erase, h.holds]
      rfl
  | listStored => exact ⟨server, h, rfl⟩

/-! ### How long a store waits -/

/-- How long a store waits for a listing has no part in reads of fields. -/
theorem readFields_waiting (rounds : Nat) (pairs : List (String × String)) :
    Connection.readFields { connection with rounds } pairs = connection.readFields pairs := by
  induction pairs with
  | nil => rfl
  | cons pair rest ih =>
    unfold readFields
    rw [ih]
    rfl

/-- How long a store waits altogether has no part in the rounds that it waits for. -/
theorem listFrom_waiting (rounds n cursor : Nat) :
    Connection.listFrom { connection with rounds } n cursor = connection.listFrom n cursor := by
  induction n generalizing cursor with
  | zero => rfl
  | succ n ih =>
    unfold listFrom
    simp only [ih]
    rfl

theorem converse_waiting (rounds : Nat) {call : Store.Call} (hdirect : call ≠ .purge none) :
    Connection.converse { connection with rounds } call = connection.converse call := by
  cases call with
  | getMany pairs =>
    unfold converse
    dsimp only
    rw [readFields_waiting]
  | purge features =>
    cases features with
    | none => exact absurd rfl hdirect
    | some names => rfl
  | _ => rfl

/-- **A purge of everything** sweeps the keys that match, if the store waits long enough for
the listing. -/
theorem exists_hold_purge (h : server.Shows view) (hlisting : listing.IsComplete) :
    ∃ later, later.Shows (view.sweep connection.pattern) ∧ ∃ enough, ∀ rounds ≥ enough,
      hold listing (Connection.converse { connection with rounds } (.purge none)) server
        = (.ok (), later) := by
  obtain ⟨found, hcycle, hfound⟩ := hlisting server.contents.keys connection.pattern
  obtain ⟨later, hlater, hcontents, enough, hlist⟩ :=
    Conversation.exists_hold_listFrom listing hcycle h.ready rfl
  -- what is listed is put in order, each key once, before it is removed
  obtain ⟨last, hlast, hcontents', hremove⟩ := Conversation.exists_hold_removeKeys
    listing hlater (Std.ExtTreeSet.ofList found).toList
  refine ⟨last, ⟨hlast, ?_⟩, enough, fun rounds hrounds => ?_⟩
  · rw [hcontents', hcontents, Contents.fields?_foldl_erase, ← h.holds]
    refine Contents.remove_eq_sweep _ fun key => ?_
    rw [← hfound key]
    simp
  · unfold converse listKeys
    dsimp only
    rw [Conversation.hold_bind, Conversation.hold_bind, listFrom_waiting, hlist rounds hrounds]
    exact hremove

/-- **What a call of the store comes to** is its effect on what the keys hold, and is the
same however long the store would wait for a listing, if it waits long enough. -/
theorem exists_hold_converse (connection : Connection) (h : server.Shows view)
    (hlisting : listing.IsComplete) (call : Store.Call) :
    ∃ later, later.Shows (connection.effect view call).2 ∧ ∃ enough, ∀ rounds ≥ enough,
      hold listing (Connection.converse { connection with rounds } call) server
        = ((connection.effect view call).1, later) := by
  by_cases hdirect : call = .purge none
  · subst hdirect
    exact exists_hold_purge listing h hlisting
  · obtain ⟨later, hlater, hhold⟩ :=
      exists_hold_converse_of_direct listing connection h hdirect
    exact ⟨later, hlater, 0, fun rounds _ => by rw [converse_waiting rounds hdirect, hhold]⟩

end Connection

end FeatureGate.Redis
