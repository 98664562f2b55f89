import Mathlib.Data.List.Forall2
import FlowGraph.Proofs.Markup.Attributes
import FlowGraph.Replica
import FlowGraph.Workflow.Compile

/-!
# `FlowGraph.Proofs.Markup.Elements`: the tree of elements in a document

The element that is read from a document is its node tree without all nodes that are no elements,
and with names reduced to their local parts. This is told from the tree alone, one element node
after another:

* `Node.Yields`: the element of a node keeps its local name and its attributes, and has one child
  for each element node inside of it, in order, which that node yields in turn.
* `Node.Agrees`: two nodes differ in nothing but namespaces and nodes that are no elements, at any
  depth. Such nodes yield the same (`Node.Agrees.element?_eq`).
* `readElement_yields`: both for texts.
-/

set_option autoImplicit false

namespace FlowGraph.Markup

namespace Node

/-- Whether a node is an element. -/
def isElement : Node → Bool
  | element .. => true
  | _ => false

/-- The table keeps attributes under their local names: each name once, where it stands first, with
the value that it has last. -/
structure KeepsAttributes (as : List Attribute) (t : Table String String) : Prop where
  names : t.keys = (as.map (·.name)).eraseDups
  value : ∀ name, t.get? name = ((as.filter (fun a => a.name = name)).getLast?).map (·.value)

/-- The node is an element with the local name and the attributes of `e`, and the element nodes
inside of it, in order and each for itself, yield the children of `e`. -/
inductive Yields : Node → Element → Prop
  | element {space : Option String} {name : String} {attributes : List Attribute}
      {content : List Node} {t : Table String String} {children : List Element}
      (hattributes : KeepsAttributes attributes t)
      (hchildren : List.Forall₂ Yields (content.filter isElement) children) :
      Yields (element space name attributes content) ⟨name, t, children⟩

mutual

/-- The nodes are elements that differ in nothing but the namespaces of their names, here and at any
depth, and in what stands between the elements inside of them. -/
inductive Agrees : Node → Node → Prop
  | element {space space' : Option String} {name : String} {attributes attributes' : List Attribute}
      {content content' : List Node}
      (hattributes : attributes.map (fun a => (a.name, a.value))
        = attributes'.map (fun a => (a.name, a.value)))
      (hcontent : AgreeInElements content content') :
      Agrees (element space name attributes content) (element space' name attributes' content')

/-- The elements among the nodes agree, in order. Nodes of other kinds may stand anywhere between
them, on either side. -/
inductive AgreeInElements : List Node → List Node → Prop
  | nil : AgreeInElements [] []
  | element {n m : Node} {ns ms : List Node} (h : Agrees n m) (hs : AgreeInElements ns ms) :
      AgreeInElements (n :: ns) (m :: ms)
  | otherLeft {n : Node} {ns ms : List Node} (h : n.isElement = false)
      (hs : AgreeInElements ns ms) : AgreeInElements (n :: ns) ms
  | otherRight {m : Node} {ns ms : List Node} (h : m.isElement = false)
      (hs : AgreeInElements ns ms) : AgreeInElements ns (m :: ms)

end

/-! ### What a node yields -/

/-- A table of attributes is told from the order of its names and from their values. -/
theorem keepsAttributes_iff {as : List Attribute} {t : Table String String} :
    KeepsAttributes as t ↔ localAttributes as = t := by
  have hnames : (localAttributes as).keys = (as.map (·.name)).eraseDups := by
    rw [localAttributes, Table.keys_ofList, List.map_map]
    rfl
  have hvalue (name : String) : (localAttributes as).get? name
      = ((as.filter (fun a => a.name = name)).getLast?).map (·.value) := by
    rw [localAttributes, Table.get?_ofList, List.filter_map, List.getLast?_map, Option.map_map]
    rfl
  -- No two tables share the order of their keys and all of their values.
  constructor
  · rintro ⟨hkeys, hget⟩
    exact Table.eq_of_get?_eq (hnames.trans hkeys.symm)
      (fun name => (hvalue name).trans (hget name).symm)
  · rintro rfl
    exact ⟨hnames, hvalue⟩

/-- Exactly the nodes that are elements are read as elements. -/
theorem isSome_element? (n : Node) : n.element?.isSome = n.isElement := by
  cases n with
  | element space name attributes content =>
      rw [element?]
      rfl
  | text value =>
      rw [element?]
      rfl
  | comment value =>
      rw [element?]
      rfl
  | instruction target value =>
      rw [element?]
      rfl

/-- Other nodes are passed over. -/
theorem elements_cons_of_not_isElement {n : Node} (ns : List Node) (h : n.isElement = false) :
    elements (n :: ns) = elements ns := by
  have hnone : n.element? = none := by
    rw [← isSome_element?] at h
    simpa using h
  rw [elements, hnone]

-- The two statements follow the recursion of `element?` and `elements`: from a node to the list of
-- those inside of it, and from a list to its first node.
mutual

/-- A node is read as the one element that it yields, if it yields any. -/
theorem element?_eq_some_iff (n : Node) (e : Element) : n.element? = some e ↔ n.Yields e := by
  cases n with
  | element space name attributes content =>
      rw [element?]
      constructor
      · rintro ⟨⟩
        exact .element (keepsAttributes_iff.2 rfl) ((elements_eq_iff content _).1 rfl)
      · rintro ⟨hattributes, hchildren⟩
        rw [keepsAttributes_iff.1 hattributes, (elements_eq_iff content _).2 hchildren]
  | text value =>
      rw [element?]
      exact ⟨nofun, nofun⟩
  | comment value =>
      rw [element?]
      exact ⟨nofun, nofun⟩
  | instruction target value =>
      rw [element?]
      exact ⟨nofun, nofun⟩

/-- The elements of a content are what its element nodes yield, in their order. -/
theorem elements_eq_iff (ns : List Node) (es : List Element) :
    elements ns = es ↔ List.Forall₂ Yields (ns.filter isElement) es := by
  cases ns with
  | nil =>
      rw [elements, List.filter_nil, List.forall₂_nil_left_iff]
      exact eq_comm
  | cons n ns =>
      have hn := element?_eq_some_iff n
      have hns := elements_eq_iff ns
      cases h : n.isElement with
      -- Both sides pass over a node of another kind.
      | false =>
          rw [elements_cons_of_not_isElement ns h, List.filter_cons_of_neg (by simp [h])]
          exact hns es
      | true =>
          rw [List.filter_cons_of_pos h, List.forall₂_cons_left_iff]
          constructor
          · rintro rfl
            obtain ⟨e, he⟩ := Option.isSome_iff_exists.1 ((isSome_element? n).trans h)
            exact ⟨e, elements ns, (hn e).1 he, (hns _).1 rfl, by rw [elements, he]⟩
          · rintro ⟨e, es, he, hes, rfl⟩
            rw [elements, (hn e).2 he, (hns es).2 hes]

end

/-! ### Nodes that agree -/

-- By recursion on how the nodes agree, and not on the nodes: on one of the two sides there may be
-- nodes that the other does not have.
mutual

/-- Trees that agree give the same element: the induction is on how they agree. -/
theorem Agrees.element?_eq : {n m : Node} → Agrees n m → n.element? = m.element?
  | _, _, .element hattributes hcontent => by
      rw [element?, element?, hcontent.elements_eq, localAttributes, localAttributes, hattributes]

/-- Contents that agree in their elements give the same elements. -/
theorem AgreeInElements.elements_eq : {ns ms : List Node} → AgreeInElements ns ms →
    elements ns = elements ms
  | _, _, .nil => rfl
  | _, _, .element h hs => by rw [elements, elements, h.element?_eq, hs.elements_eq]
  | _, _, .otherLeft h hs => by
      rw [elements_cons_of_not_isElement _ h, hs.elements_eq]
  | _, _, .otherRight h hs => by
      rw [elements_cons_of_not_isElement _ h, hs.elements_eq]

end

end Node

/-- A text that holds a document is read as the one element that the root of its node tree yields.

Another text is read as the same element, and so compiles to the same and lists the same replicas,
if its node tree differs in nothing but namespaces and nodes that are no elements. -/
theorem readElement_yields {text : String} {d : Document} (h : Document.read text = .ok d) :
    (∃ root, readElement text = .ok root) ∧
    (∀ root, readElement text = .ok root ↔ d.root.Yields root) ∧
    ∀ text' d', Document.read text' = .ok d' → d.root.Agrees d'.root →
      readElement text' = readElement text ∧
      (readElement text').map compile = (readElement text).map compile ∧
      (readElement text').map Replica.ofDocument = (readElement text).map Replica.ofDocument := by
  have hread {text : String} {d : Document} (h : Document.read text = .ok d) :
      readElement text = .ok d.toElement := by
    rw [readElement, h]
    rfl
  refine ⟨⟨_, hread h⟩, ?_, ?_⟩
  · intro root
    rw [hread h, ← Node.element?_eq_some_iff, d.element?_root, Except.ok.injEq, Option.some.injEq]
  · intro text' d' h' hagrees
    have hroots := hagrees.element?_eq
    rw [d.element?_root, d'.element?_root, Option.some.injEq] at hroots
    have hsame : readElement text' = readElement text := by rw [hread h, hread h', hroots]
    rw [hsame]
    exact ⟨rfl, rfl, rfl⟩

/-- The workflow of the text has two attributes of one local name. -/
def plainText : String :=
  "<Setup xmlns:a='urn:a' xmlns:b='urn:b'><Workflow a:x='1' tag='w' b:x='2'><A/></Workflow></Setup>"

/-- The node tree of `plainText`. -/
def plainDocument : Document where
  prolog := []
  space := none
  name := "Setup"
  attributes := []
  content := [.element none "Workflow"
    [⟨some "urn:a", "x", "1"⟩, ⟨none, "tag", "w"⟩, ⟨some "urn:b", "x", "2"⟩]
    [.element none "A" [] []]]
  epilog := []

/-- The elements of `plainText` in a namespace of their own, with other nodes between them. -/
def adornedText : String :=
  "<!--1--><c:Setup xmlns:c='urn:c'>2<c:Workflow x='1' c:tag='w' c:x='2'>3<?p 4?><c:A>5</c:A>" ++
  "<!--6--></c:Workflow></c:Setup>"

/-- The node tree of `adornedText`. -/
def adornedDocument : Document where
  prolog := [.comment "1"]
  space := some "urn:c"
  name := "Setup"
  attributes := []
  content := [.text "2", .element (some "urn:c") "Workflow"
    [⟨none, "x", "1"⟩, ⟨some "urn:c", "tag", "w"⟩, ⟨some "urn:c", "x", "2"⟩]
    [.text "3", .instruction "p" (some "4"), .element (some "urn:c") "A" [] [.text "5"],
      .comment "6"]]
  epilog := []

/-- The two documents differ in nothing that an element keeps. -/
theorem agrees_adornedDocument : plainDocument.root.Agrees adornedDocument.root :=
  .element rfl (.otherRight rfl (.element
    (.element rfl (.otherRight rfl (.otherRight rfl (.element
      (.element rfl (.otherRight rfl .nil)) (.otherRight rfl .nil)))))
    .nil))

/-- Both texts are read and give one element, with `x` in its first place and with its last
value. -/
theorem readElement_yields_adorned :
    Document.read plainText = .ok plainDocument ∧ Document.read adornedText = .ok adornedDocument ∧
    plainDocument.root.Yields
      ⟨"Setup", .empty, [⟨"Workflow", .ofList [("x", "2"), ("tag", "w")], [.leaf "A"]⟩]⟩ ∧
    readElement adornedText = readElement plainText := by
  have hplain : Document.read plainText = .ok plainDocument := by decide +kernel
  have hadorned : Document.read adornedText = .ok adornedDocument := by decide +kernel
  obtain ⟨-, hyields, hsame⟩ := readElement_yields hplain
  refine ⟨hplain, hadorned, (hyields _).1 (by decide +kernel), ?_⟩
  exact (hsame _ _ hadorned agrees_adornedDocument).1

end FlowGraph.Markup
