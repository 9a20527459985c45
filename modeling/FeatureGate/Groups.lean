import Std.Data.ExtTreeMap.Lemmas
import Std.Data.ExtTreeSet.Lemmas

/-!
# Group membership

When a context has no active value of its own, the groups it belongs to are
asked. Membership and grants are kept apart: a context key is a member of
groups in the order in which it was added to them, and that order decides which
group is asked first; a group is granted features, in no particular order.
-/

namespace FeatureGate

/-- **Membership and grants kept in memory.** -/
structure Groups where
  /-- The groups of each context key, in the order of precedence. -/
  members : Std.ExtTreeMap String (List String)
  /-- The features granted to each group. -/
  grants : Std.ExtTreeMap String (Std.ExtTreeSet String)

namespace Groups

/-- No members and no grants. -/
def empty : Groups := ⟨∅, ∅⟩

instance : Inhabited Groups := ⟨empty⟩

/-- The groups a context key belongs to, in the order of precedence. -/
def groupsFor (groups : Groups) (key : String) : List String :=
  groups.members[key]?.getD []

/-- The features granted to a group, in increasing order. -/
def featuresIn (groups : Groups) (group : String) : List String :=
  (groups.grants[group]?.getD ∅).toList

/-- **Add a context key to a group**, after the groups it belongs to already. -/
def addMember (groups : Groups) (group key : String) : Groups :=
  let joined := groups.groupsFor key
  let joined := if joined.contains group then joined else joined ++ [group]
  { groups with members := groups.members.insert key joined }

/-- **Grant a feature to a group.** -/
def grant (groups : Groups) (group feature : String) : Groups :=
  { groups with
    grants := groups.grants.insert group ((groups.grants[group]?.getD ∅).insert feature) }

end Groups

end FeatureGate
