import Ensemble.Organization.Basic

/-!
# Keeping an organization in line with the running sessions

`Organization.reconcile` removes the members whose session is gone and places the running sessions
of each repository into a group of that repository.  It leaves alone whom somebody has placed on
purpose: members with multi-agent provenance, members of multi-agent groups, and members of groups
that belong to no repository.  Repository groups that end up empty are removed.

Which groups count as multi-agent groups and as repository groups is settled before anybody is
placed.
-/

namespace Ensemble.Organization

/-- A change that reconciliation made. -/
inductive Change where
  | memberRemoved (session : String)
  | memberPlaced (session repository : String)
  | groupRemoved (name : String)
  deriving DecidableEq, Repr

/-- The description of a change. -/
def Change.text : Change → String
  | memberRemoved session => "Removed member '" ++ session ++ "': session no longer exists"
  | memberPlaced session repository =>
    "Placed '" ++ session ++ "' in repository group '" ++ repository ++ "'"
  | groupRemoved name => "Removed empty repository group '" ++ name ++ "'"

/-- Whether a character separates the parts of a path. -/
def isPathSeparator (c : Char) : Bool :=
  c == '/' || c == '\\'

/-- The name of a repository's group: the last part of its path that is not empty. -/
def repositoryName (repository : String) : String :=
  let parts := (Text.pieces isPathSeparator repository.toList).filter fun p => !p.isEmpty
  match parts.getLast? with
  | some part => String.ofList part
  | none => repository

/-- Whether a group is the group of a repository. -/
def isGroupOf (repository : String) (g : Group) : Bool :=
  !g.isMultiAgent && g.repository == some repository

/-- Whether placement leaves a member where it is, judged by the organization before placement. -/
def isSettled (before : Organization) (m : Member) : Bool :=
  m.hasProvenance ||
    (before.groups.any fun g => g.id == m.group && g.isMultiAgent) ||
    ((before.groups.any fun g => g.id == m.group) &&
      !(before.groups.any fun g => g.id == m.group && g.repository.isSome))

/-- An organization in the course of placement, with what has been done so far. -/
structure Progress where
  organization : Organization
  /-- How many groups were created. -/
  created : Nat
  changes : List Change

/-- The group of a repository, created if there is none. -/
def Progress.groupFor (p : Progress) (fresh : Nat → Id) (now : Timestamp) (repository : String) :
    Id × Progress :=
  match p.organization.groups.find? (isGroupOf repository) with
  | some group => (group.id, p)
  | none =>
    let id := fresh p.created
    let group :=
      { Group.create id (repositoryName repository) .broadcast false now with
        repository := some repository }
    (id, { p with
      organization := { p.organization with groups := p.organization.groups ++ [group] }
      created := p.created + 1 })

/-- Places a running session. -/
def Progress.place (before : Organization) (fresh : Nat → Id) (now : Timestamp)
    (lookup : String → Option String) (p : Progress) (placement : Placement) : Progress :=
  let member? := p.organization.member? placement.session
  let settled :=
    match member? with
    | some m => isSettled before m
    | none => false
  match settled, placement.worktree.bind lookup with
  | false, some repository =>
    let (id, p) := p.groupFor fresh now repository
    let changes := p.changes ++ [.memberPlaced placement.session repository]
    match member? with
    | some m =>
      if m.group == id then p
      else
        { p with
          organization := p.organization.modifyMember placement.session fun m =>
            { m with group := id }
          changes }
    | none =>
      { p with
        organization :=
          { p.organization with
            members := p.organization.members ++ [.create placement.session id] }
        changes }
  | _, _ => p

/-- Whether a group is a repository group without members. -/
def isAbandoned (o : Organization) (g : Group) : Bool :=
  g.repository.isSome && !g.isMultiAgent && !(o.members.any fun m => m.group == g.id)

/--
Brings the members in line with the running sessions and answers what changed.  `fresh` supplies the
identifiers of new groups, and `lookup` the repository of a worktree.
-/
def reconcile (o : Organization) (fresh : Nat → Id) (now : Timestamp)
    (placements : List Placement) (lookup : String → Option String) :
    List Change × Organization :=
  let isLive (m : Member) : Bool := placements.any fun p => p.session == m.session
  let removed := (o.members.filter fun m => !isLive m).map fun m => Change.memberRemoved m.session
  let before := { o with members := o.members.filter isLive }
  let placed :=
    placements.foldl (Progress.place before fresh now lookup) ⟨before, 0, removed⟩
  let o := placed.organization
  let abandoned := (o.groups.filter (isAbandoned o)).map fun g => Change.groupRemoved g.name
  (placed.changes ++ abandoned, { o with groups := o.groups.filter fun g => !isAbandoned o g })

end Ensemble.Organization
