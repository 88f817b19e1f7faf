import Ensemble.Reflection.Cycle
import Ensemble.Session.Name

/-!
# Organizations

An organization arranges sessions in groups.  A group has a mode, which says how a prompt to the
group is worked on, and at most one of its members is its orchestrator.  A session is a member of at
most one group.

An operation answers and gives the organization afterwards, which it has also if it fails.
-/

namespace Ensemble

/-- How a prompt to a group is worked on. -/
inductive GroupMode where
  /-- Every member gets the prompt at once. -/
  | broadcast
  /-- The members get it in order, each with the output of the one before. -/
  | sequential
  /-- The orchestrator plans, the workers execute, the orchestrator combines. -/
  | orchestrator
  /-- The same, repeated under a reflection cycle. -/
  | orchestratorReflect
  deriving DecidableEq, Repr

/-- The name of a mode in messages. -/
def GroupMode.label : GroupMode → String
  | broadcast => "broadcast"
  | sequential => "sequential"
  | orchestrator => "orchestrator"
  | orchestratorReflect => "orchestrator-reflect"

/-- The part that a member has in its group. -/
inductive MemberRole where
  | worker
  | orchestrator
  deriving DecidableEq, Repr

/-- A session as a member of a group. -/
structure Member where
  session : String
  group : Id
  role : MemberRole
  preferredModel : Option String
  /-- What stands before every task that the member is given. -/
  persona : Option String
  deriving DecidableEq, Repr

namespace Member

/-- A new member. -/
def create (session : String) (group : Id) : Member :=
  ⟨session, group, .worker, none, none⟩

/-- Whether a member is the orchestrator of its group. -/
def isOrchestrator (m : Member) : Bool :=
  m.role == .orchestrator

/-- Whether a member was set up for multi-agent work on purpose. -/
def hasProvenance (m : Member) : Bool :=
  m.isOrchestrator || m.preferredModel.isSome

end Member

/-- A group of sessions. -/
structure Group where
  id : Id
  name : String
  isMultiAgent : Bool
  mode : GroupMode
  orchestratorPrompt : Option String
  orchestratorModel : Option String
  workerModel : Option String
  reflection : Option Reflection.Cycle
  /-- The repository whose sessions are placed in the group of their own accord. -/
  repository : Option String
  createdAt : Timestamp
  deriving DecidableEq, Repr

namespace Group

/-- A new group. -/
def create (id : Id) (name : String) (mode : GroupMode) (isMultiAgent : Bool) (now : Timestamp) :
    Group :=
  ⟨id, name, isMultiAgent, mode, none, none, none, none, none, now⟩

end Group

/-- Changes the first item of a list that has a property. -/
def modifyFirst {α : Type} (p : α → Bool) (f : α → α) : List α → List α
  | [] => []
  | x :: rest => if p x then f x :: rest else x :: modifyFirst p f rest

/-- Groups and their members, in the order in which they were added. -/
structure Organization where
  groups : List Group
  members : List Member
  deriving DecidableEq, Repr

namespace Organization

/-- The organization without groups. -/
def empty : Organization := ⟨[], []⟩

/-! ## Looking things up -/

/-- The group of an identifier. -/
def group? (o : Organization) (id : Id) : Option Group :=
  o.groups.find? (·.id == id)

/-- The first group of a name. -/
def groupByName? (o : Organization) (name : String) : Option Group :=
  o.groups.find? (·.name == name)

/-- The member that a session is. -/
def member? (o : Organization) (session : String) : Option Member :=
  o.members.find? (·.session == session)

/-- The members of a group, in the order of all members. -/
def membersOf (o : Organization) (id : Id) : List Member :=
  o.members.filter (·.group == id)

/-- The members of a group but its orchestrator. -/
def workersOf (o : Organization) (id : Id) : List Member :=
  (o.membersOf id).filter fun m => !m.isOrchestrator

/-- The orchestrator of a group. -/
def orchestratorOf? (o : Organization) (id : Id) : Option Member :=
  (o.membersOf id).find? (·.isOrchestrator)

/-- The sessions that are members of a multi-agent group, in the order of their names. -/
def multiAgentSessions (o : Organization) : List String :=
  let multi := (o.groups.filter (·.isMultiAgent)).map (·.id)
  let sessions := (o.members.filter fun m => multi.contains m.group).map (·.session)
  sessions.eraseDups.mergeSort fun a b => a ≤ b

/-! ## Groups -/

/-- Changes a group. -/
def modifyGroup (o : Organization) (id : Id) (f : Group → Group) : Organization :=
  { o with groups := modifyFirst (·.id == id) f o.groups }

/-- Changes the member that a session is. -/
def modifyMember (o : Organization) (session : String) (f : Member → Member) : Organization :=
  { o with members := modifyFirst (·.session == session) f o.members }

/-- The failure to find a group. -/
def noGroup (id : Id) : Failure :=
  .groupNotFound id.text

/-- Adds a group; any mode but broadcast makes it a multi-agent group. -/
def createGroup (o : Organization) (id : Id) (name : String) (mode : GroupMode)
    (isMultiAgent : Bool) (now : Timestamp) : Organization :=
  { o with
    groups := o.groups ++ [.create id name mode (isMultiAgent || mode != .broadcast) now] }

/-- Removes a group together with its members. -/
def deleteGroup (o : Organization) (id : Id) : Attempt Group × Organization :=
  match o.group? id with
  | none => (.error (noGroup id), o)
  | some group =>
    (.ok group,
      { groups := o.groups.eraseP (·.id == id), members := o.members.filter (·.group != id) })

/-- Changes a group that must be there. -/
def updateGroup (o : Organization) (id : Id) (f : Group → Group) : Attempt Unit × Organization :=
  match o.group? id with
  | none => (.error (noGroup id), o)
  | some _ => (.ok (), o.modifyGroup id f)

/-- Changes the mode of a group; any mode but broadcast makes it a multi-agent group. -/
def setMode (o : Organization) (id : Id) (mode : GroupMode) : Attempt Unit × Organization :=
  o.updateGroup id fun g =>
    { g with mode, isMultiAgent := g.isMultiAgent || mode != .broadcast }

/-- Gives a group a reflection cycle, or takes it away. -/
def setReflection (o : Organization) (id : Id) (cycle : Option Reflection.Cycle) :
    Attempt Unit × Organization :=
  o.updateGroup id fun g => { g with reflection := cycle }

/-! ## Members -/

/-- Changes a member that must be there. -/
def updateMember (o : Organization) (session : String) (f : Member → Member) :
    Attempt Unit × Organization :=
  match o.member? session with
  | none => (.error (.memberNotFound session), o)
  | some _ => (.ok (), o.modifyMember session f)

/-- Changes the persona of a member. -/
def setPersona (o : Organization) (session : String) (persona : Option String) :
    Attempt Unit × Organization :=
  o.updateMember session fun m => { m with persona }

/-- Changes the preferred model of a member. -/
def setPreferredModel (o : Organization) (session : String) (model : Option String) :
    Attempt Unit × Organization :=
  o.updateMember session fun m => { m with preferredModel := model }

/-- Removes a member. -/
def removeMember (o : Organization) (session : String) : Attempt Member × Organization :=
  match o.member? session with
  | none => (.error (.memberNotFound session), o)
  | some member => (.ok member, { o with members := o.members.eraseP (·.session == session) })

/-- Makes one session the orchestrator of a group, and every other orchestrator of it a worker. -/
def crown (id : Id) (session : String) (m : Member) : Member :=
  if m.group == id then
    if m.session == session then { m with role := .orchestrator } else { m with role := .worker }
  else m

/-- Makes a member the orchestrator of its group and answers who was it before. -/
def promote (o : Organization) (id : Id) (session : String) :
    Attempt (Option String) × Organization :=
  match o.group? id, o.member? session with
  | none, _ => (.error (noGroup id), o)
  | some _, none => (.error (.memberNotFound session), o)
  | some _, some member =>
    if member.group == id then
      let demoted := (o.membersOf id).filter fun m => m.isOrchestrator && m.session != session
      (.ok (demoted.getLast?.map (·.session)),
        { o with members := o.members.map (crown id session) })
    else (.error (.memberNotFound session), o)

/-- Puts a session into a group, out of any other; a member that moves keeps model and persona. -/
def addMember (o : Organization) (id : Id) (session : String) (role : MemberRole) :
    Attempt Unit × Organization :=
  match o.group? id with
  | none => (.error (noGroup id), o)
  | some _ =>
    match Session.checkName session with
    | .error failure => (.error failure, o)
    | .ok () =>
      let joined :=
        match o.member? session with
        | some _ => o.modifyMember session fun m => { m with group := id, role := .worker }
        | none => { o with members := o.members ++ [.create session id] }
      match role with
      | .worker => (.ok (), joined)
      | .orchestrator =>
        let (answer, after) := joined.promote id session
        (answer.map fun _ => (), after)

/-! ## Placement -/

/-- A session that is running, as placement sees it. -/
structure Placement where
  session : String
  worktree : Option String
  deriving DecidableEq, Repr

end Organization

end Ensemble
