import FlowGraph.Markup.Element

/-!
# `FlowGraph.Connection`: how to reach a provenance database

A connection is the attributes of a `<database>` element, kept as they stand for whoever
stores the compiled workflow. `attribute?_ofElement` says that they read as on the element.
-/

set_option autoImplicit false

namespace FlowGraph

/-- The attributes of a `<database>` element. -/
structure Connection where
  attributes : Table String String
deriving DecidableEq

namespace Connection

/-- The element that holds a connection. -/
def elementName : String := "database"

/-- The connection without attributes. -/
def empty : Connection := ⟨.empty⟩

/-- All attributes of an element. -/
def ofElement (e : Element) : Connection := ⟨e.attributes⟩

/-- The value of an attribute. -/
def attribute? (c : Connection) (name : String) : Option String := c.attributes.get? name

/-- The host that serves the database. -/
def server? (c : Connection) : Option String := c.attribute? "server"

/-- The port that the host serves it on. -/
def port? (c : Connection) : Option String := c.attribute? "port"

/-- The name of the database. -/
def name? (c : Connection) : Option String := c.attribute? "name"

/-- The user to connect as. -/
def username? (c : Connection) : Option String := c.attribute? "username"

/-- The password of the user. -/
def password? (c : Connection) : Option String := c.attribute? "password"

/-- A connection has the attributes of its section. -/
theorem attribute?_ofElement (e : Element) (name : String) :
    (ofElement e).attribute? name = e.attribute? name := rfl

end Connection

end FlowGraph
