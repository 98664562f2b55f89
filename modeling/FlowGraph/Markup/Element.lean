import FlowGraph.CompileError
import FlowGraph.Table

/-!
# `FlowGraph.Markup.Element`: the elements of a description

A description is a tree of elements: a local name, attributes in the order of their first
setting, and child elements in document order. All that is compiled is read from such a
tree, wherever it came from. The statements:

* `attribute?_setAttribute_self`, `attribute?_setAttribute_of_ne`: an attribute holds the
  value last set for it.
* `children_pushChild`: children stand in the order in which they were pushed.
-/

set_option autoImplicit false

namespace FlowGraph

/-- An element of a description. -/
structure Element where
  /-- The local name. -/
  name : String
  /-- The attributes, in the order of their first setting. -/
  attributes : Table String String
  /-- The child elements in document order. -/
  children : List Element

namespace Element

/-- An element without attributes and children. -/
def leaf (name : String) : Element := ⟨name, .empty, []⟩

instance : Inhabited Element := ⟨leaf ""⟩

/-- The element with an attribute set; a value set before under the name is replaced. -/
def setAttribute (e : Element) (name value : String) : Element :=
  { e with attributes := e.attributes.set name value }

/-- The element with one more child, after the others. -/
def pushChild (e : Element) (child : Element) : Element :=
  { e with children := e.children ++ [child] }

/-- The value of an attribute. -/
def attribute? (e : Element) (name : String) : Option String := e.attributes.get? name

/-- The value of an attribute that must be there. -/
def requiredAttribute (e : Element) (name : String) : Except CompileError String :=
  match e.attribute? name with
  | some value => .ok value
  | none => .error (.missingAttribute e.name name)

/-- The first child of a name. -/
def firstChild? (e : Element) (name : String) : Option Element :=
  e.children.find? (fun c => c.name == name)

/-- The first child of a name that must be there. -/
def requiredChild (e : Element) (name : String) : Except CompileError Element :=
  match e.firstChild? name with
  | some child => .ok child
  | none => .error (.missingElement e.name name)

/-- An attribute that is set has the new value. -/
theorem attribute?_setAttribute_self (e : Element) (name value : String) :
    (e.setAttribute name value).attribute? name = some value :=
  Table.get?_set_self ..

/-- Setting an attribute leaves the others as they are. -/
theorem attribute?_setAttribute_of_ne (e : Element) {name other : String} (value : String)
    (h : other ≠ name) :
    (e.setAttribute name value).attribute? other = e.attribute? other :=
  Table.get?_set_of_ne _ value h

@[simp] theorem children_setAttribute (e : Element) (name value : String) :
    (e.setAttribute name value).children = e.children := rfl

@[simp] theorem children_pushChild (e child : Element) :
    (e.pushChild child).children = e.children ++ [child] := rfl

@[simp] theorem attributes_pushChild (e child : Element) :
    (e.pushChild child).attributes = e.attributes := rfl

/-! ### Equality -/

mutual

/-- Whether two elements are equal, the order of attributes and children included. -/
def decEq : (a b : Element) → Decidable (a = b)
  | ⟨n, as, cs⟩, ⟨m, bs, ds⟩ =>
      if hn : n = m then
        if ha : as = bs then
          match decEqList cs ds with
          | isTrue hc => isTrue (by rw [hn, ha, hc])
          | isFalse hc => isFalse (fun h => hc (Element.mk.inj h).2.2)
        else isFalse (fun h => ha (Element.mk.inj h).2.1)
      else isFalse (fun h => hn (Element.mk.inj h).1)

/-- Whether two lists of elements are equal. -/
def decEqList : (as bs : List Element) → Decidable (as = bs)
  | [], [] => isTrue rfl
  | [], _ :: _ => isFalse (by simp)
  | _ :: _, [] => isFalse (by simp)
  | a :: as, b :: bs =>
      match decEq a b, decEqList as bs with
      | isTrue ha, isTrue hs => isTrue (by rw [ha, hs])
      | isFalse ha, _ => isFalse (fun h => ha (List.cons.inj h).1)
      | _, isFalse hs => isFalse (fun h => hs (List.cons.inj h).2)

end

instance : DecidableEq Element := decEq

/-! ### Walking the tree -/

mutual

/-- The element and all below it in document order, each with its depth. -/
def preorder (depth : Nat) (e : Element) : List (Nat × Element) :=
  match e with
  | ⟨name, attributes, children⟩ =>
      (depth, ⟨name, attributes, children⟩) :: preorderList (depth + 1) children

/-- The trees of a list in document order, each element with its depth. -/
def preorderList (depth : Nat) : List Element → List (Nat × Element)
  | [] => []
  | e :: es => preorder depth e ++ preorderList depth es

end

end Element

end FlowGraph
