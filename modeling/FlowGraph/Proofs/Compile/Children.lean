import Mathlib.Data.List.Nodup
import FlowGraph.Proofs.Compile.Acceptance

/-!
# `FlowGraph.Proofs.Compile.Children`: what acceptable children add up to

One acceptable child more changes an activity at one place only:

* `filled_concat_relation`: a relation comes behind those of its direction, without fields.
* `filled_concat_field`: a field comes behind those of the relation that it joins. The place
  of this relation is known as a direction and a position (`StandsAt`); that no other relation
  has its name (`ChildrenAcceptable.nodup_names`) makes this the same as to look for the name.
* `StandsAt.concat_relation`, `StandsAt.concat_field`: neither moves a relation.
-/

set_option autoImplicit false

namespace FlowGraph

/-- In a list with distinct keys, changing the item at a position is changing the items with
its key. -/
theorem modify_eq_map_of_key {α κ : Type} [DecidableEq κ] {key : α → κ} {l : List α} {i : Nat}
    {k : κ} (hn : (l.map key).Nodup) (h : (l[i]?).map key = some k) (f : α → α) :
    l.modify i f = l.map (fun a => if key a = k then f a else a) := by
  -- Position by position: the keys differ wherever the positions do.
  apply List.ext_getElem?
  intro j
  rw [List.getElem?_modify, List.getElem?_map]
  by_cases hij : i = j
  · subst hij
    obtain ⟨a, ha, hk⟩ := Option.map_eq_some_iff.1 h
    simp [ha, hk]
  · cases hb : l[j]? with
    | none => rfl
    | some b =>
        have hne : key b ≠ k := by
          intro hk
          have hi : (l.map key)[i]? = some k := by rw [List.getElem?_map, h]
          have hj : (l.map key)[j]? = some k := by rw [List.getElem?_map, hb, Option.map_some, hk]
          obtain ⟨hlt, -⟩ := List.getElem?_eq_some_iff.1 hi
          exact hij ((List.getElem?_inj hlt hn).1 (hi.trans hj.symm))
        simp [hij, hne]

/-! ### Reading acceptable children -/

/-- A relation is acceptable exactly when it reads as a declaration of a new name. -/
theorem relationAcceptable_iff {before : List Element} {e : Element} :
    RelationAcceptable before e ↔
      ∃ d, RelationDeclaration.ofElement e = .ok d ∧ d.name ∉ relationNames before := by
  constructor
  · rintro ⟨⟨name, hname, hnew⟩, type, direction, htype, hdirection⟩
    refine ⟨⟨name, direction, e.attribute? "dependency"⟩,
      RelationDeclaration.ofElement_eq_ok_iff.2 ⟨hname, ?_, rfl⟩, hnew⟩
    rw [Element.direction?, htype, Option.bind_some, Direction.ofText?_eq_some_iff.2 hdirection]
  · rintro ⟨d, hd, hnew⟩
    obtain ⟨hname, hdirection, -⟩ := RelationDeclaration.ofElement_eq_ok_iff.1 hd
    obtain ⟨type, htype, hdirection⟩ := Option.bind_eq_some_iff.1 hdirection
    exact ⟨⟨d.name, hname, hnew⟩, type, d.direction, htype,
      Direction.ofText?_eq_some_iff.1 hdirection⟩

/-- A field is acceptable exactly when it reads as one and joins a relation declared before. -/
theorem fieldAcceptable_iff {before : List Element} {e : Element} :
    FieldAcceptable before e ↔ ∃ f relation direction, Field.ofElement e = .ok f ∧
      e.joins? = some (relation, direction) ∧ relation ∈ relationNames before := by
  constructor
  · rintro ⟨⟨name, hname⟩, ⟨type, htype⟩, hplaces, relation, direction, hjoins, hknown⟩
    obtain ⟨places, hplaces⟩ := exists_declaresPlaces_iff.2 hplaces
    exact ⟨⟨name, type, places, e.attribute? "operation", e.attribute? "instrumented"⟩,
      relation, direction, Field.ofElement_eq_ok_iff_declares.2 ⟨hname, htype, hplaces, rfl, rfl⟩,
      hjoins, hknown⟩
  · rintro ⟨f, relation, direction, hf, hjoins, hknown⟩
    obtain ⟨hname, htype, hplaces, -, -⟩ := Field.ofElement_eq_ok_iff_declares.1 hf
    exact ⟨⟨f.name, hname⟩, ⟨f.type, htype⟩,
      exists_declaresPlaces_iff.1 ⟨f.decimalPlaces, hplaces⟩, relation, direction,
      hjoins, hknown⟩

/-- A relation that is acceptable as a child is acceptable as a relation. -/
theorem ChildAcceptable.relation {before : List Element} {e : Element}
    (h : ChildAcceptable before e) (he : e.isRelation = true) : RelationAcceptable before e := by
  rwa [ChildAcceptable, if_pos he] at h

/-- A field that is acceptable as a child is acceptable as a field. -/
theorem ChildAcceptable.field {before : List Element} {e : Element}
    (h : ChildAcceptable before e) (he : e.isRelation = false) : FieldAcceptable before e := by
  rwa [ChildAcceptable, if_neg (by simp [he])] at h

/-! ### Lists of acceptable children -/

namespace ChildrenAcceptable

variable {es : List Element}

/-- Every acceptable child is acceptable behind some of the others. -/
theorem exists_before (h : ChildrenAcceptable es) {e : Element} (he : e ∈ es) :
    ∃ before, ChildAcceptable before e := by
  obtain ⟨before, after, hsplit⟩ := List.append_of_mem he
  exact ⟨before, h before e after hsplit⟩

/-- Every relation reads as a declaration. -/
theorem exists_declaration (h : ChildrenAcceptable es) {e : Element} (he : e ∈ es)
    (hrel : e.isRelation = true) : ∃ d, RelationDeclaration.ofElement e = .ok d := by
  obtain ⟨before, hbefore⟩ := h.exists_before he
  obtain ⟨d, hd, -⟩ := relationAcceptable_iff.1 (hbefore.relation hrel)
  exact ⟨d, hd⟩

/-- Every field reads as one, and joins a relation. -/
theorem exists_field (h : ChildrenAcceptable es) {e : Element} (he : e ∈ es)
    (hrel : e.isRelation = false) : ∃ f relation direction,
      Field.ofElement e = .ok f ∧ e.joins? = some (relation, direction) := by
  obtain ⟨before, hbefore⟩ := h.exists_before he
  obtain ⟨f, relation, direction, hf, hjoins, -⟩ :=
    fieldAcceptable_iff.1 (hbefore.field hrel)
  exact ⟨f, relation, direction, hf, hjoins⟩

/-- Every relation reads as a declaration, under the name that its element gives. -/
theorem map_name (h : ChildrenAcceptable es) :
    (declaredRelations es).map RelationDeclaration.name = relationNames es := by
  induction es using List.reverseRecOn with
  | nil => rfl
  | append_singleton es e ih =>
      obtain ⟨hes, he⟩ := childrenAcceptable_concat.1 h
      cases hrel : e.isRelation with
      | true =>
          obtain ⟨d, hd, -⟩ := relationAcceptable_iff.1 (he.relation hrel)
          have hname := (RelationDeclaration.ofElement_eq_ok_iff.1 hd).1
          rw [declaredRelations_concat_relation hrel hd, relationNames_concat_relation hrel hname,
            List.map_append, ih hes]
          rfl
      | false =>
          rw [declaredRelations_concat_field hrel, relationNames_concat_field hrel, ih hes]

/-- No two relations have one name. -/
theorem nodup_names (h : ChildrenAcceptable es) : (relationNames es).Nodup := by
  induction es using List.reverseRecOn with
  | nil => exact List.nodup_nil
  | append_singleton es e ih =>
      obtain ⟨hes, he⟩ := childrenAcceptable_concat.1 h
      cases hrel : e.isRelation with
      | true =>
          obtain ⟨name, hname, hnew⟩ := (he.relation hrel).name
          rw [relationNames_concat_relation hrel hname]
          exact List.nodup_append.2 ⟨ih hes, List.nodup_singleton name, fun x hx y hy hxy =>
            hnew (List.mem_singleton.1 hy ▸ hxy ▸ hx)⟩
      | false =>
          rw [relationNames_concat_field hrel]
          exact ih hes

/-- A relation is known by its name. -/
theorem eq_of_name_eq (h : ChildrenAcceptable es) {d d' : RelationDeclaration}
    (hd : d ∈ declaredRelations es) (hd' : d' ∈ declaredRelations es) (hname : d.name = d'.name) :
    d = d' :=
  List.inj_on_of_nodup_map (h.map_name ▸ h.nodup_names) hd hd' hname

/-- No field joins a relation that is not declared. -/
theorem joinedFields_of_not_mem (h : ChildrenAcceptable es) {name : String}
    (hname : name ∉ relationNames es) : joinedFields name es = [] := by
  induction es using List.reverseRecOn with
  | nil => rfl
  | append_singleton es e ih =>
      obtain ⟨hes, he⟩ := childrenAcceptable_concat.1 h
      cases hrel : e.isRelation with
      | true =>
          obtain ⟨other, hother, -⟩ := (he.relation hrel).name
          rw [relationNames_concat_relation hrel hother] at hname
          -- The new relation has another name, and declares no field.
          rw [joinedFields_concat_relation hrel]
          exact ih hes (fun hmem => hname (List.mem_append_left _ hmem))
      | false =>
          obtain ⟨f, relation, direction, hf, hjoins, hknown⟩ :=
            fieldAcceptable_iff.1 (he.field hrel)
          rw [relationNames_concat_field hrel] at hname
          -- The new field joins a relation that has been declared.
          have hne : relation ≠ name := by
            rintro rfl
            exact hname hknown
          rw [joinedFields_concat_field hrel hjoins hf, if_neg hne]
          exact ih hes hname

/-- The names of the relations of one direction are distinct. -/
theorem nodup_names_relationsOf (h : ChildrenAcceptable es) (link : String → Option String)
    (d : Direction) : ((relationsOf link es d).map Relation.name).Nodup := by
  have hnodup : ((declaredRelations es).map RelationDeclaration.name).Nodup := by
    rw [h.map_name]
    exact h.nodup_names
  rw [relationsOf, List.map_map]
  exact List.Nodup.sublist (List.filter_sublist.map _) hnodup

end ChildrenAcceptable

/-! ### One more child -/

section Concat

variable {es : List Element} {e : Element} {link : String → Option String} {shell : Activity}

/-- One more relation stands last among those of its direction, without fields. -/
theorem relationsOf_concat_relation {d : RelationDeclaration} (he : e.isRelation = true)
    (hd : RelationDeclaration.ofElement e = .ok d) (direction : Direction) :
    relationsOf link (es ++ [e]) direction
      = if d.direction = direction
        then relationsOf link es direction ++ [Relation.ofDeclaration link es d]
        else relationsOf link es direction := by
  -- A relation is no field, so the fields of the others stay as they are.
  have hkeep : Relation.ofDeclaration link (es ++ [e]) = Relation.ofDeclaration link es := by
    funext r
    rw [Relation.ofDeclaration, Relation.ofDeclaration, joinedFields_concat_relation he]
  rw [relationsOf, declaredRelations_concat_relation he hd, hkeep]
  split
  · next h => simp [relationsOf, h]
  · next h => simp [relationsOf, h]

/-- One more field stands last in the relation that it names, in whichever direction. -/
theorem relationsOf_concat_field {target : String} {side : Direction} {f : Field}
    (he : e.isRelation = false) (hjoins : e.joins? = some (target, side))
    (hf : Field.ofElement e = .ok f) (direction : Direction) :
    relationsOf link (es ++ [e]) direction
      = (relationsOf link es direction).map
          (fun r => if r.name = target then r.addField f else r) := by
  -- The relations are the same; each is asked whether the field joins it.
  rw [relationsOf, declaredRelations_concat_field he, relationsOf, List.map_map]
  apply List.map_congr_left
  intro d _
  show Relation.ofDeclaration link (es ++ [e]) d = if d.name = target then _ else _
  rw [Relation.ofDeclaration, joinedFields_concat_field he hjoins hf]
  by_cases h : d.name = target
  · rw [if_pos h, if_pos h.symm]
    rfl
  · rw [if_neg h, if_neg (Ne.symm h)]
    rfl

/-- A relation comes behind those of its direction. -/
theorem filled_concat_relation {d : RelationDeclaration} (he : e.isRelation = true)
    (hd : RelationDeclaration.ofElement e = .ok d) :
    shell.filled link (es ++ [e])
      = (shell.filled link es).addRelation (Relation.ofDeclaration link es d) := by
  rw [Activity.filled, relationsOf_concat_relation he hd, relationsOf_concat_relation he hd]
  show _ = (shell.filled link es).mapRelations d.direction _
  cases d.direction <;> rfl

/-! ### Places -/

/-- The relation of a name stands at a place. -/
def StandsAt (link : String → Option String) (es : List Element) (ref : RelationRef)
    (name : String) : Prop :=
  ((relationsOf link es ref.direction)[ref.index]?).map Relation.name = some name

/-- A new relation stands behind those of its direction. -/
theorem standsAt_concat_relation_self {d : RelationDeclaration} (he : e.isRelation = true)
    (hd : RelationDeclaration.ofElement e = .ok d) :
    StandsAt link (es ++ [e]) ⟨d.direction, (relationsOf link es d.direction).length⟩ d.name := by
  rw [StandsAt, relationsOf_concat_relation he hd, if_pos rfl, List.getElem?_concat_length]
  rfl

/-- Relations keep their places when another is declared. -/
theorem StandsAt.concat_relation {ref : RelationRef} {name : String} {d : RelationDeclaration}
    (h : StandsAt link es ref name) (he : e.isRelation = true)
    (hd : RelationDeclaration.ofElement e = .ok d) : StandsAt link (es ++ [e]) ref name := by
  rw [StandsAt, relationsOf_concat_relation he hd]
  obtain ⟨r, hr, -⟩ := Option.map_eq_some_iff.1 h
  obtain ⟨hlt, -⟩ := List.getElem?_eq_some_iff.1 hr
  split
  · rw [List.getElem?_append_left hlt]
    exact h
  · exact h

/-- Relations keep their places and names when a field is added. -/
theorem StandsAt.concat_field {ref : RelationRef} {name target : String} {side : Direction}
    {f : Field} (h : StandsAt link es ref name) (he : e.isRelation = false)
    (hjoins : e.joins? = some (target, side)) (hf : Field.ofElement e = .ok f) :
    StandsAt link (es ++ [e]) ref name := by
  have hname : (Relation.name ∘ fun r => if r.name = target then r.addField f else r)
      = Relation.name := by
    funext r
    show Relation.name (if r.name = target then r.addField f else r) = r.name
    split <;> rfl
  rw [StandsAt, relationsOf_concat_field he hjoins hf, List.getElem?_map, Option.map_map, hname]
  exact h

/-- A field comes behind those of the relation that it joins. -/
theorem filled_concat_field {target : String} {side : Direction} {ref : RelationRef} {f : Field}
    (h : ChildrenAcceptable es) (he : e.isRelation = false)
    (hjoins : e.joins? = some (target, side)) (hf : Field.ofElement e = .ok f)
    (hplace : StandsAt link es ref target) :
    shell.filled link (es ++ [e]) = (shell.filled link es).addField ref.direction ref.index f := by
  obtain ⟨direction, index⟩ := ref
  have hplace : ((relationsOf link es direction)[index]?).map Relation.name = some target := hplace
  -- The names of the direction are distinct, so the place is the only one of the name.
  have hhere : relationsOf link (es ++ [e]) direction
      = (relationsOf link es direction).modify index (fun r => r.addField f) := by
    rw [relationsOf_concat_field he hjoins hf,
      modify_eq_map_of_key (h.nodup_names_relationsOf link direction) hplace]
  -- A relation of the name in the other direction would be a second one of that name.
  have hthere : ∀ other, other ≠ direction →
      relationsOf link (es ++ [e]) other = relationsOf link es other := by
    intro other hother
    obtain ⟨r, hr, hname⟩ := Option.map_eq_some_iff.1 hplace
    obtain ⟨d, hd, rfl⟩ := List.mem_map.1 (List.mem_of_getElem? hr)
    rw [relationsOf_concat_field he hjoins hf]
    refine (List.map_congr_left ?_).trans (List.map_id _)
    intro r' hr'
    obtain ⟨d', hd', rfl⟩ := List.mem_map.1 hr'
    rw [List.mem_filter, decide_eq_true_eq] at hd hd'
    refine if_neg (fun hname' => hother ?_)
    rw [← hd'.2, ← hd.2, h.eq_of_name_eq hd'.1 hd.1 (hname'.trans hname.symm)]
  rw [Activity.filled]
  -- Of the two lists, the one changes at the place and the other not at all.
  cases direction with
  | input => rw [hhere, hthere .output (by decide)]; rfl
  | output => rw [hhere, hthere .input (by decide)]; rfl

end Concat

end FlowGraph
