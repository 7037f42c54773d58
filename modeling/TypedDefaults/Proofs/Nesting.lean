import TypedDefaults.Proofs.Rebuilding

/-!
# Nested positions

The positions of a file are those of its own classes, and with every position
those of the classes written inside the class there. So with a class its file
has a position for each class around it, and what a class declares is among the
inner names of the classes around it. Its position comes before those of the
classes inside it. A change that keeps headers and nested classes keeps the
positions of the file, in order.
-/

namespace TypedDefaults.Java

/-- A class is written in the body of another one. -/
def ClassDeclaration.WrittenIn (inner outer : ClassDeclaration) : Prop :=
  Member.nested inner.header inner.body ∈ outer.body

/-- The walk from the classes of a file to those inside leads to a class, past those around it. -/
inductive CompilationUnit.LeadsTo (unit : CompilationUnit) :
    ClassDeclaration → List ClassDeclaration → Prop where
  | outermost (declaration : ClassDeclaration) (listed : declaration ∈ unit.classes) :
      unit.LeadsTo declaration []
  | inside (inner outer : ClassDeclaration) (around : List ClassDeclaration)
      (reached : unit.LeadsTo outer around) (written : inner.WrittenIn outer) :
      unit.LeadsTo inner (outer :: around)

/-- Positions inside a member of a class that the walk leads to are led to as well. -/
theorem CompilationUnit.leadsTo_positions (unit : CompilationUnit) (member : Member)
    (outer : ClassDeclaration) (around : List ClassDeclaration)
    (reached : unit.LeadsTo outer around) (inside : member ∈ outer.body)
    (position : ClassPosition) (found : position ∈ member.positions (outer :: around)) :
    unit.LeadsTo position.declaration position.enclosing := by
  induction member using Member.inductionOnMembers generalizing outer around with
  | field declaration => simp [Member.positions] at found
  | method declaration => simp [Member.positions] at found
  | nested header body inductionHypothesis =>
    have here : unit.LeadsTo ⟨header, body⟩ (outer :: around) :=
      .inside ⟨header, body⟩ outer around reached inside
    rw [Member.positions, Member.positionsAll_eq_flatMap, List.mem_cons, List.mem_flatMap] at found
    rcases found with rfl | ⟨member, within, deeper⟩
    · exact here
    · exact inductionHypothesis member within ⟨header, body⟩ (outer :: around) here within deeper

/-- With the position of a class, a member has the positions of the classes written in it. -/
theorem Member.positions_inward (member : Member) (enclosing : List ClassDeclaration)
    (inner outer : ClassDeclaration) (around : List ClassDeclaration)
    (found : ⟨outer, around⟩ ∈ member.positions enclosing) (written : inner.WrittenIn outer) :
    ⟨inner, outer :: around⟩ ∈ member.positions enclosing := by
  induction member using Member.inductionOnMembers generalizing enclosing with
  | field declaration => simp [Member.positions] at found
  | method declaration => simp [Member.positions] at found
  | nested header body inductionHypothesis =>
    rw [Member.positions, Member.positionsAll_eq_flatMap, List.mem_cons, List.mem_flatMap]
      at found ⊢
    right
    rcases found with same | ⟨member, within, deeper⟩
    · obtain ⟨rfl, rfl⟩ := ClassPosition.mk.inj same
      refine ⟨_, written, ?_⟩
      rw [Member.positions]
      exact List.mem_cons_self
    · exact ⟨member, within, inductionHypothesis member within _ deeper⟩

/-- The positions of a file are those that the walk leads to. -/
theorem CompilationUnit.mem_positions_iff (unit : CompilationUnit) (position : ClassPosition) :
    position ∈ unit.positions ↔ unit.LeadsTo position.declaration position.enclosing := by
  constructor
  · intro found
    obtain ⟨declaration, listed, within⟩ := List.mem_flatMap.mp found
    rw [ClassDeclaration.positions, Member.positionsAll_eq_flatMap, List.mem_cons,
      List.mem_flatMap] at within
    have here : unit.LeadsTo declaration [] := .outermost declaration listed
    rcases within with rfl | ⟨member, inside, deeper⟩
    · exact here
    · exact unit.leadsTo_positions member declaration [] here inside position deeper
  · rcases position with ⟨declaration, enclosing⟩
    intro (reached : unit.LeadsTo declaration enclosing)
    induction reached with
    | outermost declaration listed =>
      exact List.mem_flatMap.mpr ⟨declaration, listed, List.mem_cons_self⟩
    | inside inner outer around reached written inductionHypothesis =>
      obtain ⟨declaration, listed, within⟩ := List.mem_flatMap.mp inductionHypothesis
      refine List.mem_flatMap.mpr ⟨declaration, listed, ?_⟩
      rw [ClassDeclaration.positions, Member.positionsAll_eq_flatMap, List.mem_cons,
        List.mem_flatMap] at within ⊢
      right
      rcases within with same | ⟨member, inside, deeper⟩
      · obtain ⟨rfl, rfl⟩ := ClassPosition.mk.inj same
        refine ⟨_, written, ?_⟩
        rw [Member.positions]
        exact List.mem_cons_self
      · exact ⟨member, inside, member.positions_inward _ inner outer around deeper written⟩

/-- The names inside members are those inside each of them. -/
theorem Member.innerNamesAll_eq_flatMap (body : List Member) :
    Member.innerNamesAll body = body.flatMap Member.innerNames := by
  induction body with
  | nil => rw [Member.innerNamesAll, List.flatMap_nil]
  | cons member rest inductionHypothesis =>
    rw [Member.innerNamesAll, inductionHypothesis, List.flatMap_cons]

/-- What a class written in another one declares, itself or inside, is declared inside the other. -/
theorem ClassDeclaration.nestedNames_of_writtenIn (inner outer : ClassDeclaration)
    (written : inner.WrittenIn outer) (name : String)
    (declared : name ∈ inner.declaredNames ∨ name ∈ inner.nestedNames) :
    name ∈ outer.nestedNames := by
  rw [nestedNames, Member.innerNamesAll_eq_flatMap, List.mem_flatMap]
  refine ⟨_, written, ?_⟩
  rw [Member.innerNames, List.mem_append]
  exact declared

/-- Each class around a class has its own position in the file, and what the classes between the two
declare is among its inner names. -/
theorem CompilationUnit.position_around (unit : CompilationUnit) (position : ClassPosition)
    (found : position ∈ unit.positions) (between : List ClassDeclaration)
    (outer : ClassDeclaration) (around : List ClassDeclaration)
    (split : position.chain = between ++ outer :: around) :
    ⟨outer, around⟩ ∈ unit.positions ∧
      ∀ inner ∈ between, ∀ name ∈ inner.declaredNames, name ∈ outer.nestedNames := by
  rw [mem_positions_iff] at found ⊢
  rcases position with ⟨declaration, enclosing⟩
  replace found : unit.LeadsTo declaration enclosing := found
  replace split : declaration :: enclosing = between ++ outer :: around := split
  suffices reached : unit.LeadsTo outer around ∧ ∀ inner ∈ between, ∀ name,
      name ∈ inner.declaredNames ∨ name ∈ inner.nestedNames → name ∈ outer.nestedNames from
    ⟨reached.1, fun inner inside name declared => reached.2 inner inside name (.inl declared)⟩
  induction found generalizing between with
  | outermost declaration listed =>
    cases between with
    | nil =>
      obtain ⟨rfl, rfl⟩ := List.cons.inj split
      exact ⟨.outermost declaration listed, by simp⟩
    | cons inner others => simp at split
  | inside inner next beyond reached written inductionHypothesis =>
    cases between with
    | nil =>
      obtain ⟨rfl, rfl⟩ := List.cons.inj split
      exact ⟨.inside inner next beyond reached written, by simp⟩
    | cons first others =>
      obtain ⟨rfl, rest⟩ := List.cons.inj split
      obtain ⟨outward, names⟩ := inductionHypothesis others rest
      refine ⟨outward, ?_⟩
      rw [List.forall_mem_cons]
      refine ⟨fun name declared => ?_, names⟩
      -- The class may be written in the outer one itself, or in a class between the two.
      have further := inner.nestedNames_of_writtenIn next written name declared
      cases others with
      | nil =>
        obtain ⟨rfl, rfl⟩ := List.cons.inj rest
        exact further
      | cons second _ =>
        obtain ⟨rfl, _⟩ := List.cons.inj rest
        exact names next List.mem_cons_self name (.inr further)

/-- The position of a class is followed at once by those of the classes inside it. -/
theorem Member.positions_stretch (member : Member) (enclosing : List ClassDeclaration)
    (position : ClassPosition) (found : position ∈ member.positions enclosing) :
    position :: Member.positionsAll position.chain position.declaration.body <:+:
      member.positions enclosing := by
  induction member using Member.inductionOnMembers generalizing enclosing with
  | field declaration => simp [Member.positions] at found
  | method declaration => simp [Member.positions] at found
  | nested header body inductionHypothesis =>
    rw [Member.positions] at found ⊢
    rcases List.mem_cons.mp found with rfl | inside
    · exact List.infix_rfl
    · rw [Member.positionsAll_eq_flatMap, List.mem_flatMap] at inside
      obtain ⟨member, within, deeper⟩ := inside
      have whole : member.positions (⟨header, body⟩ :: enclosing) <:+:
          Member.positionsAll (⟨header, body⟩ :: enclosing) body := by
        rw [Member.positionsAll_eq_flatMap, List.flatMap_def]
        exact List.infix_of_mem_flatten (List.mem_map_of_mem within)
      exact (inductionHypothesis member within _ deeper).trans
        (whole.trans (List.suffix_cons _ _).isInfix)

/-- Among the positions of a file, that of a class is followed at once by those of the classes
inside it. -/
theorem CompilationUnit.positions_stretch (unit : CompilationUnit) (position : ClassPosition)
    (found : position ∈ unit.positions) :
    position :: Member.positionsAll position.chain position.declaration.body <:+:
      unit.positions := by
  obtain ⟨declaration, listed, within⟩ := List.mem_flatMap.mp found
  have whole : declaration.positions <:+: unit.positions := by
    rw [CompilationUnit.positions, List.flatMap_def]
    exact List.infix_of_mem_flatten (List.mem_map_of_mem listed)
  -- A class of the file has the positions of a nested class with none around it.
  have alone : declaration.positions =
      (Member.nested declaration.header declaration.body).positions [] := by
    rw [ClassDeclaration.positions, Member.positions]
  rw [alone] at within whole
  exact (Member.positions_stretch _ _ position within).trans whole

/-- A class that the walk leads to from inside another one has its position inside that one. -/
theorem CompilationUnit.LeadsTo.mem_positionsAll {unit : CompilationUnit}
    {inner outer : ClassDeclaration} {between around : List ClassDeclaration}
    (reached : unit.LeadsTo inner (between ++ outer :: around)) :
    ⟨inner, between ++ outer :: around⟩ ∈
      Member.positionsAll (outer :: around) outer.body := by
  induction between generalizing inner with
  | nil =>
    cases reached with
    | inside inner outer around reached written =>
      rw [Member.positionsAll_eq_flatMap, List.mem_flatMap]
      refine ⟨_, written, ?_⟩
      rw [Member.positions]
      exact List.mem_cons_self
  | cons next rest inductionHypothesis =>
    cases reached with
    | inside inner next around reached written =>
      have further := inductionHypothesis reached
      rw [Member.positionsAll_eq_flatMap, List.mem_flatMap] at further ⊢
      obtain ⟨member, within, deeper⟩ := further
      exact ⟨member, within, member.positions_inward _ inner next _ deeper written⟩

/-- A class comes before the classes inside it, at any depth. -/
theorem CompilationUnit.outer_first (unit : CompilationUnit) (outer inner : ClassPosition)
    (placed : inner ∈ unit.positions) (inside : outer.chain <:+ inner.enclosing) :
    ∃ between, outer :: between ++ [inner] <:+: unit.positions := by
  obtain ⟨between, split⟩ := inside
  have chain : inner.chain = (inner.declaration :: between) ++ outer.chain := by
    rw [ClassPosition.chain, ← split, List.cons_append]
  obtain ⟨reached, _⟩ := unit.position_around inner placed _ _ _ chain
  have within := (unit.mem_positions_iff inner).mp placed
  rw [← split] at within
  have listed := within.mem_positionsAll
  have same : (⟨inner.declaration, between ++ outer.declaration :: outer.enclosing⟩ :
      ClassPosition) = inner := by
    rw [← ClassPosition.chain, split]
  rw [same] at listed
  obtain ⟨before, after, stretch⟩ := List.append_of_mem listed
  refine ⟨before, List.IsInfix.trans ?_ (unit.positions_stretch outer reached)⟩
  rw [ClassPosition.chain, stretch]
  exact ⟨[], after, by simp⟩

/-- The member is a nested class. -/
def Member.isNested : Member → Bool
  | .nested _ _ => true
  | _ => false

/-- A change keeps the headers of classes and the classes nested in them. -/
structure ClassChange.KeepsNesting (change : ClassChange) : Prop where
  header : ∀ position current, (change position current).header = current.header
  nested : ∀ position current,
    (change position current).body.filter Member.isNested = current.body.filter Member.isNested

/-- A list of classes, each nested in the one after it, as a change leaves them. -/
def changedChain (change : ClassChange) : List ClassDeclaration → List ClassDeclaration
  | [] => []
  | declaration :: around =>
    ClassPosition.changed change ⟨declaration, around⟩ :: changedChain change around

/-- The position that a class has once its file is changed. -/
def ClassPosition.moved (change : ClassChange) (position : ClassPosition) : ClassPosition :=
  ⟨position.changed change, changedChain change position.enclosing⟩

/-- The classes from a moved position outwards are the changed ones. -/
theorem ClassPosition.chain_moved (change : ClassChange) (position : ClassPosition) :
    (position.moved change).chain = changedChain change position.chain := rfl

/-- A changed class has its old header. -/
theorem ClassPosition.header_changed {change : ClassChange} (keeps : change.KeepsNesting)
    (position : ClassPosition) :
    (position.changed change).header = position.declaration.header :=
  keeps.header position (position.given change)

/-- The headers along a chain of classes are kept. -/
theorem headers_changedChain {change : ClassChange} (keeps : change.KeepsNesting)
    (chain : List ClassDeclaration) :
    (changedChain change chain).map ClassDeclaration.header =
      chain.map ClassDeclaration.header := by
  induction chain with
  | nil => rfl
  | cons declaration around inductionHypothesis =>
    rw [changedChain, List.map_cons, List.map_cons, inductionHypothesis,
      ClassPosition.header_changed keeps]

/-- The classes from a moved position outwards have the names that they had. -/
theorem ClassPosition.names_chain_moved {change : ClassChange} (keeps : change.KeepsNesting)
    (position : ClassPosition) (name : String) :
    (∃ around ∈ (position.moved change).chain, around.header.type.qualifiedName = name) ↔
      ∃ around ∈ position.chain, around.header.type.qualifiedName = name := by
  have read : ∀ chain : List ClassDeclaration,
      (∃ around ∈ chain, around.header.type.qualifiedName = name) ↔
        ∃ header ∈ chain.map ClassDeclaration.header, header.type.qualifiedName = name := by
    intro chain
    simp
  rw [chain_moved, read, headers_changedChain keeps, ← read]

/-- Only nested classes have positions inside them. -/
theorem Member.positionsAll_filter (enclosing : List ClassDeclaration) (body : List Member) :
    Member.positionsAll enclosing (body.filter Member.isNested) =
      Member.positionsAll enclosing body := by
  induction body with
  | nil => rfl
  | cons member rest inductionHypothesis =>
    cases member with
    | nested header inner =>
      rw [List.filter_cons_of_pos rfl, Member.positionsAll, Member.positionsAll,
        inductionHypothesis]
    | _ =>
      rw [List.filter_cons_of_neg (by simp [Member.isNested]), inductionHypothesis,
        Member.positionsAll, Member.positions, List.nil_append]

/-- Inside a changed class, positions come from inside the class as it was given to the change. -/
theorem ClassPosition.positions_inside {change : ClassChange} (keeps : change.KeepsNesting)
    (position : ClassPosition)
    (inner : ∀ member ∈ position.declaration.body,
      (member.changed change position.chain).positions (changedChain change position.chain) =
        (member.positions position.chain).map (ClassPosition.moved change)) :
    Member.positionsAll (changedChain change position.chain) (position.changed change).body =
      (Member.positionsAll position.chain position.declaration.body).map
        (ClassPosition.moved change) := by
  rw [← Member.positionsAll_filter, ClassPosition.changed, keeps.nested,
    Member.positionsAll_filter, ClassPosition.given, Member.positionsAll_eq_flatMap,
    Member.positionsAll_eq_flatMap, Member.changedAll_eq_map, List.flatMap_map, List.map_flatMap]
  exact List.flatMap_congr inner

/-- The positions inside a changed member are the moved ones. -/
theorem Member.positions_changed {change : ClassChange} (keeps : change.KeepsNesting)
    (member : Member) (enclosing : List ClassDeclaration) :
    (member.changed change enclosing).positions (changedChain change enclosing) =
      (member.positions enclosing).map (ClassPosition.moved change) := by
  induction member using Member.inductionOnMembers generalizing enclosing with
  | field declaration => simp [Member.changed, Member.positions]
  | method declaration => simp [Member.changed, Member.positions]
  | nested header body inductionHypothesis =>
    have inside := ClassPosition.positions_inside keeps ⟨⟨header, body⟩, enclosing⟩
      fun member within => inductionHypothesis member within _
    rw [Member.changed_nested, Member.positions, Member.positions, List.map_cons]
    exact congrArg (List.cons _) inside

/-- The positions of a changed file are those of the file, moved. -/
theorem CompilationUnit.positions_changed {change : ClassChange} (keeps : change.KeepsNesting)
    (unit : CompilationUnit) :
    (unit.changed change).positions = unit.positions.map (ClassPosition.moved change) := by
  rw [CompilationUnit.positions, CompilationUnit.positions, CompilationUnit.changed,
    List.flatMap_map, List.map_flatMap]
  apply List.flatMap_congr
  intro declaration _
  have inside := ClassPosition.positions_inside keeps ⟨declaration, []⟩
    fun member _ => member.positions_changed keeps _
  rw [ClassDeclaration.positions, ClassDeclaration.positions, List.map_cons]
  exact congrArg (List.cons _) inside

end TypedDefaults.Java
