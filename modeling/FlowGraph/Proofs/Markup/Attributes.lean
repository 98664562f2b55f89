import FlowGraph.Connection
import FlowGraph.Markup.Document
import FlowGraph.Proofs.Table

/-!
# `FlowGraph.Proofs.Markup.Attributes`: attributes and children, told from how they came

An element is built by setting attributes and pushing children, in any order between them
(`Element.Built`), and a document is no exception: each of its elements is built from the
attributes and the content of its node (`built_of_element?`). What an element holds is told from
these settings and children:

* `Built.attributes_eq`: its attributes are the settings made one after another, that is, names in
  the order of their first setting, each with its last value (`Built.keys_eq`,
  `Built.attribute?_eq`).
* `Built.entries_eq`: a plain list of pairs in which the first pair of a name is replaced would
  hold the same, because no name ever has two.
* `Connection.attributes_ofElement`: collecting the attributes again, pair by pair, changes nothing.
-/

set_option autoImplicit false

namespace FlowGraph

/-! ### Plain lists of pairs -/

/-- A list of pairs with a name bound to a value: the first pair of the name is replaced, and a name
that is not there comes last. -/
def setFirst (pairs : List (String × String)) (name value : String) : List (String × String) :=
  match pairs with
  | [] => [(name, value)]
  | p :: ps => if p.1 = name then (p.1, value) :: ps else p :: setFirst ps name value

/-- The value that a name is bound to last. -/
def lastSet (settings : List (String × String)) (name : String) : Option String :=
  ((settings.filter (fun s => decide (s.1 = name))).getLast?).map Prod.snd

/-- A new name is put at the end. -/
theorem setFirst_of_not_mem {pairs : List (String × String)} {name : String} (value : String)
    (h : name ∉ pairs.map Prod.fst) : setFirst pairs name value = pairs ++ [(name, value)] := by
  induction pairs with
  | nil => rfl
  | cons p ps ih =>
      rw [List.map_cons, List.mem_cons, not_or] at h
      rw [setFirst, if_neg (Ne.symm h.1), ih h.2, List.cons_append]

/-- Where no name has two pairs, replacing the first is replacing all. -/
theorem setFirst_of_mem {pairs : List (String × String)} {name : String} (value : String)
    (hnodup : (pairs.map Prod.fst).Nodup) (h : name ∈ pairs.map Prod.fst) :
    setFirst pairs name value = pairs.map (fun p => if p.1 = name then (p.1, value) else p) := by
  induction pairs with
  | nil => cases h
  | cons p ps ih =>
      rw [List.map_cons, List.nodup_cons] at hnodup
      rw [setFirst, List.map_cons]
      by_cases hp : p.1 = name
      · -- The name of this pair is that of no later one.
        have hrest : ps.map (fun q => if q.1 = name then (q.1, value) else q) = ps := by
          refine (List.map_congr_left (fun q hq => if_neg ?_)).trans (List.map_id ps)
          rintro rfl
          exact hnodup.1 (hp ▸ List.mem_map_of_mem hq)
        rw [if_pos hp, if_pos hp, hrest]
      · rw [if_neg hp, if_neg hp, ih hnodup.2]
        rw [List.map_cons, List.mem_cons] at h
        exact h.resolve_left (Ne.symm hp)

/-- A table of attributes is set as the pairs are: the first place, the last value. -/
theorem Table.entries_set_eq_setFirst (t : Table String String) (name value : String) :
    (t.set name value).entries = setFirst t.entries name value := by
  by_cases h : name ∈ t.keys
  · rw [entries_set_of_mem value h, setFirst_of_mem value t.nodup_keys h]
  · rw [entries_set_of_not_mem value h, setFirst_of_not_mem value h]

namespace Element

/-! ### Building -/

/-- The element has been built by making these settings of attributes and pushing these children,
both in this order. -/
inductive Built : Element → List (String × String) → List Element → Prop
  | leaf (name : String) : Built (leaf name) [] []
  | setAttribute {e : Element} {settings : List (String × String)} {children : List Element}
      (name value : String) (h : Built e settings children) :
      Built (e.setAttribute name value) (settings ++ [(name, value)]) children
  | pushChild {e : Element} {settings : List (String × String)} {children : List Element}
      (child : Element) (h : Built e settings children) :
      Built (e.pushChild child) settings (children ++ [child])

section

variable {e : Element} {settings : List (String × String)} {children : List Element}

/-- The attributes are the settings, made one after another. -/
theorem Built.attributes_eq (h : e.Built settings children) :
    e.attributes = .ofList settings := by
  induction h with
  | leaf name => rfl
  | setAttribute name value h ih =>
      rw [Table.ofList_concat, ← ih]
      rfl
  | pushChild child h ih => exact ih

/-- The children stand in the order in which they were pushed. -/
theorem Built.children_eq (h : e.Built settings children) : e.children = children := by
  induction h with
  | leaf name => rfl
  | setAttribute name value h ih => exact ih
  | pushChild child h ih => rw [children_pushChild, ih]

/-- The names stand in the order in which they were first set, each once. -/
theorem Built.keys_eq (h : e.Built settings children) :
    e.attributes.keys = (settings.map Prod.fst).eraseDups := by
  rw [h.attributes_eq, Table.keys_ofList]

/-- An attribute has the value last set for it. -/
theorem Built.attribute?_eq (h : e.Built settings children) (name : String) :
    e.attribute? name = lastSet settings name := by
  rw [attribute?, h.attributes_eq, Table.get?_ofList, lastSet]

/-- A plain list of pairs would hold the same attributes. -/
theorem Built.entries_eq (h : e.Built settings children) :
    e.attributes.entries = settings.foldl (fun pairs s => setFirst pairs s.1 s.2) [] := by
  induction h with
  | leaf name => rfl
  | setAttribute name value h ih =>
      rw [List.foldl_append, ← ih]
      exact Table.entries_set_eq_setFirst ..
  | pushChild child h ih => exact ih

end

/-- Every element can be built, from its attributes and its children in order. -/
theorem built_ofList (name : String) (settings : List (String × String))
    (children : List Element) :
    Built ⟨name, .ofList settings, children⟩ settings children := by
  induction children using List.reverseRecOn with
  | nil =>
      induction settings using List.reverseRecOn with
      | nil => exact .leaf name
      | append_singleton settings s ih =>
          rw [Table.ofList_concat]
          exact ih.setAttribute s.1 s.2
  | append_singleton children child ih => exact ih.pushChild child

end Element

/-! ### Elements of documents -/

namespace Markup.Node

/-- The attributes of a node by their local names, in document order. -/
def settings : Node → List (String × String)
  | element _ _ attributes _ => attributes.map (fun a => (a.name, a.value))
  | _ => []

/-- The nodes inside of a node. -/
def content : Node → List Node
  | element _ _ _ content => content
  | _ => []

/-- An element of a document is built from the attributes of its node and the elements inside of
it, in document order. -/
theorem built_of_element? {n : Node} {e : Element} (h : n.element? = some e) :
    e.Built n.settings (n.content.filterMap element?) := by
  cases n with
  | element space name attributes content =>
      rw [element?] at h
      cases h
      rw [elements_eq_filterMap]
      exact Element.built_ofList name _ _
  | text value =>
      rw [element?] at h
      cases h
  | comment value =>
      rw [element?] at h
      cases h
  | instruction target value =>
      rw [element?] at h
      cases h

end Markup.Node

/-- What is read as the root element of a document is the element of its root node. -/
theorem Markup.exists_document_of_readElement {text : String} {root : Element}
    (h : readElement text = .ok root) :
    ∃ d, Document.read text = .ok d ∧ d.root.element? = some root := by
  rw [readElement] at h
  cases hread : Document.read text with
  | error e =>
      rw [hread] at h
      cases h
  | ok d =>
      rw [hread] at h
      cases h
      exact ⟨d, rfl, d.element?_root⟩

/-! ### Connections -/

/-- Collecting the attributes of an element pair by pair yields the connection that keeps them. -/
theorem Connection.attributes_ofElement (e : Element) :
    (ofElement e).attributes = .ofList e.attributes.entries :=
  (Table.ofList_entries e.attributes).symm

end FlowGraph
