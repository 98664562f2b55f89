import FlowGraph.Proofs.Compile.Fields
import FlowGraph.Proofs.Compile.OperandTexts
import FlowGraph.Proofs.Workflow.Kinds

/-!
# `FlowGraph.Proofs.Compile.Acceptance`: what a description has to look like

A description is acceptable if all of its declarations are, each behind those before it, and
a declaration is if its own attributes, its children and its operands are. All of this is
said of the elements alone, without a workflow or a registry, and what their attributes have to
say without the functions that read them: `Text.Spells` for kinds and directions, `IsNumber32` for
decimal places and `ListsOperands` for operands.

Beside each predicate stands what is reported where it fails: `RelationFault`, `FieldFault`,
`DeclarationFault` and `DocumentFault` relate an element to the error of its first violation,
in the order in which a description is read. `…_or_fault` says that there is one wherever the
predicate fails.
-/

set_option autoImplicit false

namespace FlowGraph

namespace Element

/-- The kind of activity that a declaration names. -/
def kind? (e : Element) : Option ActivityKind := (e.attribute? "type").bind ActivityKind.ofText?

/-- A declaration has the kind whose name its type spells. -/
theorem kind?_eq_some_iff {e : Element} {k : ActivityKind} :
    e.kind? = some k ↔ ∃ type, e.attribute? "type" = some type ∧ Text.Spells type k.name := by
  simp only [kind?, Option.bind_eq_some_iff, ActivityKind.ofText?_eq_some_iff]

end Element

/-! ### Children -/

/-- A relation is declared with a name that no relation before it has, and with a direction. -/
structure RelationAcceptable (before : List Element) (e : Element) : Prop where
  name : ∃ name, e.attribute? "name" = some name ∧ name ∉ relationNames before
  direction : ∃ (type : String) (direction : Direction), e.attribute? "reltype" = some type ∧
    Text.Spells type direction.name

/-- A field is declared with a name and a type; its decimal places, if given, are a number of
32 bits; and exactly one of its attributes names a relation, one declared before it. -/
structure FieldAcceptable (before : List Element) (e : Element) : Prop where
  name : ∃ name, e.attribute? "name" = some name
  type : ∃ type, e.attribute? "type" = some type
  decimalPlaces : ∀ text, e.attribute? "decimalplaces" = some text →
    ∃ n, IsNumber32 text n
  relation : ∃ relation direction, e.joins? = some (relation, direction) ∧
    relation ∈ relationNames before

/-- A child of a declaration is an acceptable relation or an acceptable field. -/
def ChildAcceptable (before : List Element) (e : Element) : Prop :=
  if e.isRelation then RelationAcceptable before e else FieldAcceptable before e

/-- What is wrong first with a relation of the activity `tag` behind the children `before`. -/
inductive RelationFault (tag : String) (before : List Element) (e : Element) :
    CompileError → Prop where
  | noName (h : e.attribute? "name" = none) :
      RelationFault tag before e (.missingAttribute e.name "name")
  | noDirection {name : String} (hname : e.attribute? "name" = some name)
      (h : e.attribute? "reltype" = none) :
      RelationFault tag before e (.missingAttribute e.name "reltype")
  | unknownDirection {name type : String} (hname : e.attribute? "name" = some name)
      (htype : e.attribute? "reltype" = some type)
      (h : ∀ direction : Direction, ¬ Text.Spells type direction.name) :
      RelationFault tag before e (.invalidRelationType name type)
  | repeatedName {name type : String} {direction : Direction}
      (hname : e.attribute? "name" = some name) (htype : e.attribute? "reltype" = some type)
      (hdirection : Text.Spells type direction.name) (h : name ∈ relationNames before) :
      RelationFault tag before e (.duplicateRelation tag name)

/-- What is wrong first with a field of the activity `tag` behind the children `before`. -/
inductive FieldFault (tag : String) (before : List Element) (e : Element) :
    CompileError → Prop where
  | noName (h : e.attribute? "name" = none) :
      FieldFault tag before e (.missingAttribute e.name "name")
  | noType {name : String} (hname : e.attribute? "name" = some name)
      (h : e.attribute? "type" = none) :
      FieldFault tag before e (.missingAttribute e.name "type")
  | invalidPlaces {name type text : String} (hname : e.attribute? "name" = some name)
      (htype : e.attribute? "type" = some type)
      (htext : e.attribute? "decimalplaces" = some text)
      (h : ∀ n, ¬ IsNumber32 text n) :
      FieldFault tag before e (.invalidDecimalPlaces name text)
  | ambiguous {name type input output : String} {places : Option UInt32}
      (hname : e.attribute? "name" = some name) (htype : e.attribute? "type" = some type)
      (hplaces : DeclaresPlaces (e.attribute? "decimalplaces") places)
      (hinput : e.attribute? "input" = some input) (houtput : e.attribute? "output" = some output) :
      FieldFault tag before e (.ambiguousFieldRelation tag name input output)
  | unbound {name type : String} {places : Option UInt32}
      (hname : e.attribute? "name" = some name) (htype : e.attribute? "type" = some type)
      (hplaces : DeclaresPlaces (e.attribute? "decimalplaces") places)
      (hinput : e.attribute? "input" = none) (houtput : e.attribute? "output" = none) :
      FieldFault tag before e (.unboundField tag name)
  | unknownRelation {name type relation : String} {places : Option UInt32}
      {direction : Direction}
      (hname : e.attribute? "name" = some name) (htype : e.attribute? "type" = some type)
      (hplaces : DeclaresPlaces (e.attribute? "decimalplaces") places)
      (hjoins : e.joins? = some (relation, direction)) (h : relation ∉ relationNames before) :
      FieldFault tag before e (.unknownRelation tag name relation (relationNames before))

/-- What is wrong first with a child of the activity `tag` behind the children `before`. -/
def ChildFault (tag : String) (before : List Element) (e : Element) (err : CompileError) :
    Prop :=
  if e.isRelation then RelationFault tag before e err else FieldFault tag before e err

/-- A relation that is not acceptable has a fault. -/
theorem relationAcceptable_or_fault (tag : String) (before : List Element) (e : Element) :
    RelationAcceptable before e ∨ ∃ err, RelationFault tag before e err := by
  cases hname : e.attribute? "name" with
  | none => exact Or.inr ⟨_, .noName hname⟩
  | some name =>
  cases htype : e.attribute? "reltype" with
  | none => exact Or.inr ⟨_, .noDirection hname htype⟩
  | some type =>
  by_cases hspells : ∃ direction : Direction, Text.Spells type direction.name
  · obtain ⟨direction, hdirection⟩ := hspells
    by_cases hnew : name ∈ relationNames before
    · exact Or.inr ⟨_, .repeatedName hname htype hdirection hnew⟩
    · exact Or.inl ⟨⟨name, hname, hnew⟩, ⟨type, direction, htype, hdirection⟩⟩
  · exact Or.inr ⟨_, .unknownDirection hname htype (not_exists.1 hspells)⟩

/-- A field that is not acceptable has a fault. -/
theorem fieldAcceptable_or_fault (tag : String) (before : List Element) (e : Element) :
    FieldAcceptable before e ∨ ∃ err, FieldFault tag before e err := by
  cases hname : e.attribute? "name" with
  | none => exact Or.inr ⟨_, .noName hname⟩
  | some name =>
  cases htype : e.attribute? "type" with
  | none => exact Or.inr ⟨_, .noType hname htype⟩
  | some type =>
  -- The checks come in the order in which a field is read.
  by_cases hgood : ∀ text, e.attribute? "decimalplaces" = some text → ∃ n, IsNumber32 text n
  · obtain ⟨places, hplaces⟩ := exists_declaresPlaces_iff.2 hgood
    -- Of the four ways to give the two attributes, two name a relation.
    cases hinput : e.attribute? "input" with
    | none =>
        cases houtput : e.attribute? "output" with
        | none => exact Or.inr ⟨_, .unbound hname htype hplaces hinput houtput⟩
        | some output =>
            have hjoins : e.joins? = some (output, .output) := by
              simp [Element.joins?, hinput, houtput]
            by_cases hknown : output ∈ relationNames before
            · exact Or.inl ⟨⟨name, hname⟩, ⟨type, htype⟩, hgood, output, .output, hjoins, hknown⟩
            · exact Or.inr ⟨_, .unknownRelation hname htype hplaces hjoins hknown⟩
    | some input =>
        cases houtput : e.attribute? "output" with
        | some output => exact Or.inr ⟨_, .ambiguous hname htype hplaces hinput houtput⟩
        | none =>
            have hjoins : e.joins? = some (input, .input) := by
              simp [Element.joins?, hinput, houtput]
            by_cases hknown : input ∈ relationNames before
            · exact Or.inl ⟨⟨name, hname⟩, ⟨type, htype⟩, hgood, input, .input, hjoins, hknown⟩
            · exact Or.inr ⟨_, .unknownRelation hname htype hplaces hjoins hknown⟩
  · push Not at hgood
    obtain ⟨text, htext, hnone⟩ := hgood
    exact Or.inr ⟨_, .invalidPlaces hname htype htext hnone⟩

/-- A child that is not acceptable has a fault, as the relation or the field that it is. -/
theorem childAcceptable_or_fault (tag : String) (before : List Element) (e : Element) :
    ChildAcceptable before e ∨ ∃ err, ChildFault tag before e err := by
  unfold ChildAcceptable ChildFault
  split
  · exact relationAcceptable_or_fault tag before e
  · exact fieldAcceptable_or_fault tag before e

/-! ### Declarations -/

/-- All children of a declaration are acceptable, each behind those before it. -/
def ChildrenAcceptable (es : List Element) : Prop := AllBehind ChildAcceptable es

/-- One more child is asked behind all others. -/
theorem childrenAcceptable_concat {es : List Element} {e : Element} :
    ChildrenAcceptable (es ++ [e]) ↔ ChildrenAcceptable es ∧ ChildAcceptable es e :=
  allBehind_concat

/-- Some field of the name joins a relation that is declared as an output. -/
def NamesOutputField (es : List Element) (name : String) : Prop :=
  ∃ f ∈ es, f.isRelation = false ∧ f.attribute? "name" = some name ∧
    ∃ r ∈ es, r.isRelation = true ∧ r.direction? = some .output ∧
      ∃ relation direction, r.attribute? "name" = some relation ∧
        f.joins? = some (relation, direction)

/-- An activity is declared with a tag that is not taken and with a known type; its children
are acceptable; and what it aggregates on, if it reduces, are fields of its outputs. -/
structure DeclarationAcceptable (taken : List String) (d : Element) : Prop where
  tag : ∃ tag, d.attribute? "tag" = some tag ∧ tag ∉ taken
  kind : ∃ kind, d.kind? = some kind
  children : ChildrenAcceptable d.children
  operands : d.kind? = some .reduce → ∀ operand values, d.attribute? "operand" = some operand →
    ListsOperands operand values → ∀ token ∈ values, NamesOutputField d.children token

/-- What is wrong first with a declaration, where the tags `taken` are taken. -/
inductive DeclarationFault (taken : List String) (d : Element) : CompileError → Prop where
  | noTag (h : d.attribute? "tag" = none) :
      DeclarationFault taken d (.missingAttribute d.name "tag")
  | noType {tag : String} (htag : d.attribute? "tag" = some tag)
      (h : d.attribute? "type" = none) :
      DeclarationFault taken d (.missingAttribute d.name "type")
  | unknownType {tag type : String} (htag : d.attribute? "tag" = some tag)
      (htype : d.attribute? "type" = some type)
      (h : ∀ kind : ActivityKind, ¬ Text.Spells type kind.name) :
      DeclarationFault taken d (.invalidActivityType tag type)
  | repeatedTag {tag : String} {kind : ActivityKind} (htag : d.attribute? "tag" = some tag)
      (hkind : d.kind? = some kind) (h : tag ∈ taken) :
      DeclarationFault taken d (.duplicateActivity tag)
  | child {tag : String} {kind : ActivityKind} {before after : List Element} {e : Element}
      {err : CompileError} (htag : d.attribute? "tag" = some tag) (hkind : d.kind? = some kind)
      (hnew : tag ∉ taken) (hsplit : d.children = before ++ e :: after)
      (hbefore : ChildrenAcceptable before) (h : ChildFault tag before e err) :
      DeclarationFault taken d err
  | operand {tag operand token : String} {before after : List String}
      (htag : d.attribute? "tag" = some tag) (hkind : d.kind? = some .reduce)
      (hnew : tag ∉ taken) (hchildren : ChildrenAcceptable d.children)
      (hoperand : d.attribute? "operand" = some operand)
      (hlists : ListsOperands operand (before ++ token :: after))
      (hbefore : ∀ t ∈ before, NamesOutputField d.children t)
      (h : ¬ NamesOutputField d.children token) :
      DeclarationFault taken d (.missingAggregationField tag token)

/-- A declaration that is not acceptable has a fault: in its own attributes, else in its first
child that is not acceptable, else in its operands. -/
theorem declarationAcceptable_or_fault (taken : List String) (d : Element) :
    DeclarationAcceptable taken d ∨ ∃ err, DeclarationFault taken d err := by
  cases htag : d.attribute? "tag" with
  | none => exact Or.inr ⟨_, .noTag htag⟩
  | some tag =>
  cases htype : d.attribute? "type" with
  | none => exact Or.inr ⟨_, .noType htag htype⟩
  | some type =>
  by_cases hspells : ∃ kind : ActivityKind, Text.Spells type kind.name
  case neg => exact Or.inr ⟨_, .unknownType htag htype (not_exists.1 hspells)⟩
  obtain ⟨kind, hkind⟩ := hspells
  replace hkind : d.kind? = some kind := Element.kind?_eq_some_iff.2 ⟨type, htype, hkind⟩
  by_cases hnew : tag ∈ taken
  · exact Or.inr ⟨_, .repeatedTag htag hkind hnew⟩
  -- The declaration itself is in order. What is left are its children, then its operands.
  rcases allBehind_or_first ChildAcceptable d.children with
    hchildren | ⟨before, e, after, hsplit, hbefore, he⟩
  · by_cases hoperands : d.kind? = some .reduce → ∀ operand values,
        d.attribute? "operand" = some operand → ListsOperands operand values →
          ∀ token ∈ values, NamesOutputField d.children token
    · exact Or.inl ⟨⟨tag, htag, hnew⟩, ⟨kind, hkind⟩, hchildren, hoperands⟩
    · simp only [Classical.not_imp, Classical.not_forall] at hoperands
      obtain ⟨hreduce, operand, values, hoperand, hlists, token, hmem, htoken⟩ := hoperands
      -- Some operand is no field of an output; the first of them is the fault.
      rcases allBehind_or_first (fun _ t => NamesOutputField d.children t) values with
        hall | ⟨before, t, after, hsplit, hbefore, ht⟩
      · exact absurd (allBehind_const.1 hall token hmem) htoken
      · exact Or.inr ⟨_, .operand htag hreduce hnew hchildren hoperand (hsplit ▸ hlists)
          (allBehind_const.1 hbefore) ht⟩
  · obtain ⟨err, herr⟩ := (childAcceptable_or_fault tag before e).resolve_left he
    exact Or.inr ⟨_, .child htag hkind hnew hsplit hbefore herr⟩

/-! ### Documents -/

/-- The tags that declarations give to their activities, in document order. -/
def activityTags (ds : List Element) : List String := ds.filterMap (·.attribute? "tag")

/-- All declarations are acceptable, each with a tag that none before it has. -/
def DeclarationsAcceptable (ds : List Element) : Prop :=
  AllBehind (fun before d => DeclarationAcceptable (activityTags before) d) ds

/-- A document has a workflow, the first of them has a tag, and its declarations are
acceptable. -/
def DocumentAcceptable (root : Element) : Prop :=
  ∃ element, root.firstChild? workflowElement = some element ∧
    (∃ tag, element.attribute? "tag" = some tag) ∧
    DeclarationsAcceptable element.children

/-- What is wrong first with a document. -/
inductive DocumentFault (root : Element) : CompileError → Prop where
  | noWorkflow (h : root.firstChild? workflowElement = none) :
      DocumentFault root (.missingElement root.name workflowElement)
  | noTag {element : Element} (hfirst : root.firstChild? workflowElement = some element)
      (h : element.attribute? "tag" = none) :
      DocumentFault root (.missingAttribute element.name "tag")
  | declaration {element d : Element} {tag : String} {before after : List Element}
      {err : CompileError} (hfirst : root.firstChild? workflowElement = some element)
      (htag : element.attribute? "tag" = some tag)
      (hsplit : element.children = before ++ d :: after)
      (hbefore : DeclarationsAcceptable before)
      (h : DeclarationFault (activityTags before) d err) :
      DocumentFault root err

/-- A document that is not acceptable has a fault: it has no workflow or no tag for it, or a
first declaration that is not acceptable. -/
theorem documentAcceptable_or_fault (root : Element) :
    DocumentAcceptable root ∨ ∃ err, DocumentFault root err := by
  cases hfirst : root.firstChild? workflowElement with
  | none => exact Or.inr ⟨_, .noWorkflow hfirst⟩
  | some element =>
  cases htag : element.attribute? "tag" with
  | none => exact Or.inr ⟨_, .noTag hfirst htag⟩
  | some tag =>
  rcases allBehind_or_first (fun before d => DeclarationAcceptable (activityTags before) d)
    element.children with hall | ⟨before, d, after, hsplit, hbefore, hd⟩
  · exact Or.inl ⟨element, hfirst, ⟨tag, htag⟩, hall⟩
  · obtain ⟨err, herr⟩ := (declarationAcceptable_or_fault (activityTags before) d).resolve_left hd
    exact Or.inr ⟨_, .declaration hfirst htag hsplit hbefore herr⟩

end FlowGraph
