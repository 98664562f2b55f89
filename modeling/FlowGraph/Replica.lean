import FlowGraph.Connection
import FlowGraph.Json.Decode
import FlowGraph.Json.Writer
import FlowGraph.Log
import FlowGraph.Text.Blank
import FlowGraph.Text.Caseless

/-!
# `FlowGraph.Replica`: the sites that hold copies

A description may list peer sites in a `<multisite>` element. Those whose role marks a
replica are collected in document order, each with the connection of its own database; the
others are passed over, whatever they hold. Roles are recognised trimmed and in any ASCII
case, and kept as they stand.
-/

set_option autoImplicit false

namespace FlowGraph

/-- A site that holds a copy. -/
structure Replica where
  role : String
  database : Connection
deriving DecidableEq

namespace Replica

/-- The element that lists the sites. -/
def listElement : String := "multisite"

/-- The roles that mark a replica. -/
def roles : List String := ["slave", "replica", "secondary"]

/-- Whether a role marks a replica. -/
def isRole (role : String) : Bool := roles.any (fun r => Text.sameLetters r (Text.trim role))

/-- The role of a site, if it marks a replica. -/
def roleOf? (e : Element) : Option String := (e.attribute? "role").filter isRole

/-- The replicas among some sites and the records of the sites passed over. A replica must
have a section for its database. -/
def collect : List Element → Except CompileError (List Replica) × Log
  | [] => (.ok [], [])
  | e :: es =>
      match roleOf? e with
      | none =>
          let (result, log) := collect es
          (result, .siteSkipped e.name :: log)
      | some role =>
          match e.requiredChild Connection.elementName with
          | .error err => (.error err, [])
          | .ok database =>
              let (result, log) := collect es
              (result.map (⟨role, .ofElement database⟩ :: ·), log)

/-- The replicas that a document lists, given its root element. -/
def ofDocument (root : Element) : Except CompileError (List Replica) × Log :=
  match root.requiredChild listElement with
  | .error e => (.error e, [])
  | .ok sites =>
      match collect sites.children with
      | (.error e, log) => (.error e, log)
      | (.ok replicas, log) => (.ok replicas, log ++ [.sitesFound replicas.length])

end Replica

/-! ### Stored form -/

/-- The stored form of a connection. -/
def Connection.toData (c : Connection) : Data :=
  .mapping (c.attributes.entries.map (fun e => (e.1, .text e.2)))

/-- A connection as JSON text on one line. -/
def Connection.toJson (c : Connection) : String := Json.render .compact c.toData

/-- The reader of connections. -/
def Connection.decoder : Json.Decoder Connection := fun t =>
  (Json.Decoder.table Except.ok Json.Decoder.text t).map Connection.mk

namespace Replica

/-- The stored form of a replica. -/
def toData (r : Replica) : Data :=
  .mapping [("role", .text r.role), ("database", r.database.toData)]

/-- Replicas as JSON text on one line. -/
def listToJson (rs : List Replica) : String := Json.render .compact (.sequence (rs.map toData))

/-- What is known of a replica while it is read. -/
structure Draft where
  role : Option String := none
  database : Option Connection := none

/-- How a replica is read. -/
def recordType : Json.RecordType Draft Replica where
  name := "Site"
  fields := ["role", "database"]
  start := {}
  put r key t :=
    match key with
    | "role" => return { r with role := some (← Json.Decoder.text t) }
    | "database" => return { r with database := some (← Connection.decoder t) }
    | _ => return r
  finish r :=
    match r.role, r.database with
    | none, _ => .error "role"
    | _, none => .error "database"
    | some role, some database => .ok ⟨role, database⟩

/-- The replicas that a JSON text holds. -/
def listOfJson (s : String) : Except Json.ReadError (List Replica) :=
  Json.readText (Json.Decoder.list recordType.decoder) s

end Replica

end FlowGraph
