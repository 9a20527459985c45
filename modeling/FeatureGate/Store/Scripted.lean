import FeatureGate.Store.Memory

/-!
# The scripted store

A store in memory that fails on request, for rehearsing failures. Rules make
calls of an operation fail, a number of times or for good; a rival writes a row
just before the next first write of that very row. A call that a rule makes
fail has no effect but to use the rule up.

Without the listing of features it is a store that does not support listing.
-/

namespace FeatureGate.Store

/-- The failure a rule asks for. -/
inductive Script.Failure where
  /-- As if a row were there already. -/
  | conflict
  /-- As if the operation were not supported. -/
  | unsupported
  /-- As if the backend had failed. -/
  | backend
  /-- As if the payload could not be read back. -/
  | serialization
deriving DecidableEq, Repr

/-- The error of a failing call. -/
def Script.Failure.error (failure : Script.Failure) (operation feature key : String) :
    StoreError :=
  match failure with
  | conflict => .conflict feature key
  | unsupported => .unsupported operation "scripted"
  | backend => .backend ("scripted " ++ operation ++ " failure")
  | serialization => .serialization "EOF while parsing an object at line 1 column 1"

/-- **A rule**: calls of an operation fail. -/
structure Script.Rule where
  /-- The operation. -/
  operation : String
  /-- How the calls fail. -/
  failure : Script.Failure
  /-- How often, or without end if negative. -/
  times : Int
deriving DecidableEq, Repr

/-- **A rival** writer of one row. -/
structure Script.Rival where
  /-- The row. -/
  address : Address
  /-- The payload it writes. -/
  value : Payload

/-- The rows, and the rules and rivals that still wait. -/
structure Script where
  /-- The rows. -/
  rows : Rows
  /-- The rules, oldest first. -/
  rules : List Script.Rule
  /-- The rivals, oldest first. -/
  rivals : List Script.Rival

namespace Script

/-- Use up one time of a rule: the rule that is left, if it is. -/
def Rule.spend (rule : Rule) : Option Rule :=
  if rule.times < 0 then some rule
  else if rule.times ≤ 1 then none
  else some { rule with times := rule.times - 1 }

/-- The first rule of an operation, and the rules after it was used once. -/
def takeRule (operation : String) : List Rule → Option (Failure × List Rule)
  | [] => none
  | rule :: rest =>
    if rule.operation = operation then some (rule.failure, rule.spend.toList ++ rest)
    else (takeRule operation rest).map fun (failure, left) => (failure, rule :: left)

/-- The first rival of a row, and the rivals without it. -/
def takeRival (address : Address) : List Rival → Option (Rival × List Rival)
  | [] => none
  | rival :: rest =>
    if rival.address = address then some (rival, rest)
    else (takeRival address rest).map fun (found, left) => (found, rival :: left)

/-- Let the rival of a row write, if one waits. -/
def rivalWrites (script : Script) (address : Address) : Script :=
  match takeRival address script.rivals with
  | some (rival, left) =>
    { script with rows := script.rows.insert address rival.value, rivals := left }
  | none => script

/-- Answer a single call: it fails if a rule says so. -/
def single (feature key : String) (call : Call) : StateM Script call.Reply := fun script =>
  match takeRule call.operation script.rules with
  | some (failure, rules) =>
    (.error (failure.error call.operation feature key), { script with rules })
  | none =>
    let answered := script.rows.answer call
    (answered.1, { script with rows := answered.2 })

/-- Remove all rules and rivals. -/
def heal (script : Script) : Script := { script with rules := [], rivals := [] }

end Script

/-- **A store in memory that fails on request.** -/
def scripted : Store (StateM Script) where
  kind := "memory"
  call
    | .get feature key => Script.single feature key (.get feature key)
    | .getMany pairs =>
      readEach (fun feature key => Script.single feature key (.get feature key)) pairs
    | .insert feature key value => do
      modify (·.rivalWrites ⟨feature, key⟩)
      Script.single feature key (.insert feature key value)
    | .set feature key value => Script.single feature key (.set feature key value)
    | .setForAll feature value => Script.single feature "" (.setForAll feature value)
    | .delete feature key => Script.single feature key (.delete feature key)
    | .purge features => Script.single "" "" (.purge features)
    | .listStored => Script.single "" "" .listStored

/-- **A store that cannot list** the features it has rows of. -/
def withoutListing {σ : Type} (store : Store (StateM σ)) : Store (StateM σ) where
  kind := "no-listing"
  call
    | .listStored => return .error (.unsupported "list_stored" "no-listing")
    | call => store.call call

end FeatureGate.Store
