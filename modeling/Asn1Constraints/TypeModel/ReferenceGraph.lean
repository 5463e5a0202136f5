import Asn1Constraints.Text.NameSet
import Asn1Constraints.TypeModel.Basic

/-!
The graph of references between the types of a module. Its points are the
declared and the referenced names; an edge leads from a name to each type that
uses it, once. Points are taken in the order of their names as soon as all they
refer to has been taken. What is left over sits on a cycle or behind one.
-/

namespace Asn1Constraints

/-- Each name with the types that use it, both in ascending order. -/
structure ReferenceGraph where
  users : List (String × List String)

/-- A run over the graph: for each name how many of the names it refers to are
still to be taken, the names that wait for nothing, and the names taken so far,
the last one first. -/
structure Schedule where
  waiting : List (String × Nat)
  ready : List String
  taken : List String

inductive DependencyOrder where
  /-- Every referenced name before the types that use it. -/
  | ordered (names : List String)
  /-- No such order; these names are on a cycle or lead to one. -/
  | cyclic (names : List String)

structure ReferenceReport where
  nodes : Nat
  edges : Nat
  order : DependencyOrder

namespace TypeModule

def mentionedNames (module : TypeModule) : List String :=
  module.types.flatMap fun assignment => assignment.name :: assignment.type.references

def usersOf (module : TypeModule) (name : String) : List String :=
  NameSet.ofList ((module.types.filter fun assignment =>
    assignment.type.references.contains name).map (·.name))

def referenceGraph (module : TypeModule) : ReferenceGraph :=
  ⟨(NameSet.ofList module.mentionedNames).map fun name => (name, module.usersOf name)⟩

end TypeModule

namespace Schedule

/-- One of the names that `name` refers to has been taken. -/
def release (schedule : Schedule) (name : String) : Schedule :=
  match schedule.waiting.lookup name with
  | none => schedule
  | some count =>
    { schedule with
      waiting := schedule.waiting.map fun entry =>
        if entry.1 = name then (name, count - 1) else entry
      ready := if count - 1 = 0 then NameSet.insert name schedule.ready else schedule.ready }

/-- Take the first ready name. -/
def step (graph : ReferenceGraph) (schedule : Schedule) : Schedule :=
  match schedule.ready with
  | [] => schedule
  | name :: rest =>
    let users := (graph.users.lookup name).getD []
    users.foldl release { schedule with ready := rest, taken := name :: schedule.taken }

def run (graph : ReferenceGraph) : Nat → Schedule → Schedule
  | 0, schedule => schedule
  | rounds + 1, schedule => run graph rounds (schedule.step graph)

end Schedule

namespace ReferenceGraph

/-- How many names the given one refers to. -/
def usedCount (graph : ReferenceGraph) (name : String) : Nat :=
  graph.users.countP fun entry => entry.2.contains name

def start (graph : ReferenceGraph) : Schedule :=
  let waiting := graph.users.map fun entry => (entry.1, graph.usedCount entry.1)
  { waiting
    ready := (waiting.filter fun entry => entry.2 = 0).map (·.1)
    taken := [] }

/-- Each round takes one name, so as many rounds as names are enough. -/
def schedule (graph : ReferenceGraph) : Schedule :=
  Schedule.run graph graph.users.length graph.start

def dependencyOrder (graph : ReferenceGraph) : DependencyOrder :=
  let final := graph.schedule
  if final.taken.length = graph.users.length then .ordered final.taken.reverse
  else .cyclic ((final.waiting.filter fun entry => entry.2 ≠ 0).map (·.1))

def report (graph : ReferenceGraph) : ReferenceReport where
  nodes := graph.users.length
  edges := (graph.users.flatMap (·.2)).length
  order := graph.dependencyOrder

end ReferenceGraph

namespace DependencyOrder

def isAcyclic : DependencyOrder → Bool
  | .ordered _ => true
  | .cyclic _ => false

def orderJson : DependencyOrder → Json
  | .ordered names => .ofNames names
  | .cyclic _ => .null

def cycleJson : DependencyOrder → Json
  | .ordered _ => .null
  | .cyclic names => .ofNames names

end DependencyOrder

def ReferenceReport.toJson (report : ReferenceReport) : Json :=
  .object
    [("summary", .object [("nodes", .ofNat report.nodes), ("edges", .ofNat report.edges)]),
      ("dependency_order", report.order.orderJson), ("cycle", report.order.cycleJson)]

end Asn1Constraints
