import FlowGraph.Markup.Element

/-!
# `FlowGraph.Markup.Node`: the node tree of a document

What a document says once its syntax is gone: elements with the namespaces of their names,
text, comments and processing instructions. `Document.toElement` keeps the elements alone
and reduces every name to its local part. The statements:

* `Node.elements_eq_filterMap`: exactly the element nodes are kept, in order, and each
  becomes the element that `Node.element?` makes of it, so this holds at every depth.
* `Document.element?_root`: the root node becomes the root of the tree.
-/

set_option autoImplicit false

namespace FlowGraph.Markup

/-- An attribute as it stands in a tag: its namespace, if it has one, its local name and its
value with all references resolved. Declarations of namespaces are no attributes. -/
structure Attribute where
  space : Option String
  name : String
  value : String
deriving DecidableEq

/-- A node below the root of a document. -/
inductive Node where
  /-- An element: the namespace and the local part of its name, attributes and content. -/
  | element (space : Option String) (name : String) (attributes : List Attribute)
      (content : List Node)
  /-- A stretch of text. -/
  | text (value : String)
  /-- A comment. -/
  | comment (value : String)
  /-- A processing instruction. -/
  | instruction (target : String) (value : Option String)

namespace Node

/-- Attributes under their local names. Names that differ in their namespaces only fall
together: the first place and the last value win. -/
def localAttributes (as : List Attribute) : Table String String :=
  .ofList (as.map (fun a => (a.name, a.value)))

mutual

/-- The element that a node is, if it is one. -/
def element? : Node → Option Element
  | element _ name attributes content =>
      some ⟨name, localAttributes attributes, elements content⟩
  | text _ => none
  | comment _ => none
  | instruction _ _ => none

/-- The elements among some nodes, in order. -/
def elements : List Node → List Element
  | [] => []
  | n :: ns =>
      match element? n with
      | some e => e :: elements ns
      | none => elements ns

end

/-- The elements among some nodes are the images of the nodes that are elements. -/
theorem elements_eq_filterMap (ns : List Node) : elements ns = ns.filterMap element? := by
  induction ns with
  | nil => simp [elements]
  | cons n ns ih =>
      rw [elements, ih]
      cases h : element? n <;> simp [h]

/-! ### Equality -/

mutual

/-- Whether two nodes are equal, all that stands inside of them included. -/
def decEq : (m n : Node) → Decidable (m = n)
  | element s n as ms, element t o bs ns =>
      if h : s = t ∧ n = o ∧ as = bs then
        match decEqList ms ns with
        | isTrue hms => isTrue (by rw [h.1, h.2.1, h.2.2, hms])
        | isFalse hms => isFalse (fun heq => hms (element.inj heq).2.2.2)
      else isFalse (fun heq => h
        ⟨(element.inj heq).1, (element.inj heq).2.1, (element.inj heq).2.2.1⟩)
  | text v, text w => decidable_of_iff (v = w) (by simp)
  | comment v, comment w => decidable_of_iff (v = w) (by simp)
  | instruction a v, instruction b w => decidable_of_iff (a = b ∧ v = w) (by simp)
  | element .., text .. | element .., comment .. | element .., instruction ..
  | text .., element .. | text .., comment .. | text .., instruction ..
  | comment .., element .. | comment .., text .. | comment .., instruction ..
  | instruction .., element .. | instruction .., text .. | instruction .., comment .. =>
      isFalse nofun

/-- Whether two lists of nodes are equal. -/
def decEqList : (ms ns : List Node) → Decidable (ms = ns)
  | [], [] => isTrue rfl
  | [], _ :: _ => isFalse nofun
  | _ :: _, [] => isFalse nofun
  | m :: ms, n :: ns =>
      match decEq m n, decEqList ms ns with
      | isTrue hm, isTrue hms => isTrue (by rw [hm, hms])
      | isFalse hm, _ => isFalse (fun h => hm (List.cons.inj h).1)
      | _, isFalse hms => isFalse (fun h => hms (List.cons.inj h).2)

end

instance : DecidableEq Node := decEq

end Node

/-- A document: its root element, and the comments and processing instructions around it. -/
structure Document where
  /-- What stands before the root element. -/
  prolog : List Node
  space : Option String
  name : String
  attributes : List Attribute
  content : List Node
  /-- What stands after the root element. -/
  epilog : List Node
deriving DecidableEq

namespace Document

/-- The root element as a node. -/
def root (d : Document) : Node := .element d.space d.name d.attributes d.content

/-- The tree of elements of a document. -/
def toElement (d : Document) : Element :=
  ⟨d.name, Node.localAttributes d.attributes, Node.elements d.content⟩

/-- A document is read as the element of its root. -/
theorem element?_root (d : Document) : d.root.element? = some d.toElement := by
  rw [root, Node.element?, toElement]

end Document

end FlowGraph.Markup
