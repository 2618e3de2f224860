import AccessDirectory.Directory

/-! The permissions that a user holds in effect: the user's own and those of every group that the user
reaches through memberships. Groups that do not exist are passed over, and a group that has been
visited is not visited again. -/

namespace AccessDirectory

/-- The visits that remain at most: every name still pending, and the memberships of every group that
has not been visited. -/
def visitsLeft (unvisited : Table UserGroup) (pending : List String) : Nat :=
  pending.length + (unvisited.entries.map (·.2.groups.length)).foldr (· + ·) 0

/-- The groups reached from the pending names, each taken out of the table when it is visited. -/
def reachedGroups : (fuel : Nat) → Table UserGroup → List String → List UserGroup
  | 0, _, _ => []
  | _ + 1, _, [] => []
  | fuel + 1, unvisited, name :: pending =>
    match unvisited.get? name with
    | none => reachedGroups fuel unvisited pending
    | some g => g :: reachedGroups fuel (unvisited.erase name) (g.groups ++ pending)

def groupsOf (groups : Table UserGroup) (memberships : List String) : List UserGroup :=
  reachedGroups (visitsLeft groups memberships) groups memberships

namespace Directories

def account (ds : Directories) (identifier : String) : Except Failure (Option User) := do
  let users ← ds.find .user
  users.get identifier

/-- The groups that some memberships lead to. Without a directory of groups there are none; a
directory that is out of order fails at the first membership. -/
def inherited (ds : Directories) (memberships : List String) : Except Failure (List UserGroup) :=
  match ds.userGroups, memberships with
  | none, _ => .ok []
  | _, [] => .ok []
  | some groups, _ => groups.guarded .get (.ok (groupsOf groups.objects memberships))

/-- The permissions that a user holds in effect; an unknown user holds none. -/
def effectivePermissions (ds : Directories) (identifier : String) : Except Failure Permissions := do
  match ← ds.account identifier with
  | none => return {}
  | some user =>
    let groups ← ds.inherited user.groups
    return user.permissions.merged (groups.map (·.permissions))

end Directories

end AccessDirectory
