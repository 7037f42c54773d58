import Mathlib.Algebra.BigOperators.Group.List.Basic
import TypedDefaults.Java.Position
import TypedDefaults.Proofs.Completion

/-!
# Rebuilt classes

A rebuilt file is its old one with a change at every class: the change is told
the position of the class in the old file, and is given the class with its
nested classes changed. What a visitor does to the state adds up over the
positions, in whatever order they are visited. A visitor that leaves every class
leaves the file.
-/

namespace TypedDefaults.Java

/-- A change of classes: what a class as given becomes at a position of the file as it was. -/
abbrev ClassChange := ClassPosition → ClassDeclaration → ClassDeclaration

mutual

/-- The member with its classes changed, nested ones first. -/
def Member.changed (change : ClassChange) (enclosing : List ClassDeclaration) : Member → Member
  | .field declaration => .field declaration
  | .method declaration => .method declaration
  | .nested header body =>
    let new := change ⟨⟨header, body⟩, enclosing⟩
      ⟨header, Member.changedAll change (⟨header, body⟩ :: enclosing) body⟩
    .nested new.header new.body

/-- The members with their classes changed. -/
def Member.changedAll (change : ClassChange) (enclosing : List ClassDeclaration) :
    List Member → List Member
  | [] => []
  | member :: rest => member.changed change enclosing :: Member.changedAll change enclosing rest

end

/-- The class that a change is given at a position: nested classes are changed already. -/
def ClassPosition.given (change : ClassChange) (position : ClassPosition) : ClassDeclaration :=
  ⟨position.declaration.header,
    Member.changedAll change position.chain position.declaration.body⟩

/-- The class that a change leaves at a position. -/
def ClassPosition.changed (change : ClassChange) (position : ClassPosition) : ClassDeclaration :=
  change position (position.given change)

/-- The file with its classes changed. -/
def CompilationUnit.changed (change : ClassChange) (unit : CompilationUnit) : CompilationUnit :=
  { unit with classes := unit.classes.map fun declaration =>
      ClassPosition.changed change ⟨declaration, []⟩ }

/-- A changed nested class is the class that the change leaves at its position. -/
theorem Member.changed_nested (change : ClassChange) (enclosing : List ClassDeclaration)
    (header : ClassHeader) (body : List Member) :
    (Member.nested header body).changed change enclosing =
      .nested (ClassPosition.changed change ⟨⟨header, body⟩, enclosing⟩).header
        (ClassPosition.changed change ⟨⟨header, body⟩, enclosing⟩).body := by
  rw [Member.changed]
  rfl

/-- Members are changed one by one. -/
theorem Member.changedAll_eq_map (change : ClassChange) (enclosing : List ClassDeclaration)
    (body : List Member) :
    Member.changedAll change enclosing body = body.map (Member.changed change enclosing) := by
  induction body with
  | nil => rw [Member.changedAll, List.map_nil]
  | cons member rest inductionHypothesis =>
    rw [Member.changedAll, inductionHypothesis, List.map_cons]

/-- The positions of members are those of each of them. -/
theorem Member.positionsAll_eq_flatMap (enclosing : List ClassDeclaration) (body : List Member) :
    Member.positionsAll enclosing body = body.flatMap (Member.positions enclosing) := by
  induction body with
  | nil => rw [Member.positionsAll, List.flatMap_nil]
  | cons member rest inductionHypothesis =>
    rw [Member.positionsAll, inductionHypothesis, List.flatMap_cons]

/-- What holds of fields and methods, and of a class if it holds of its members, holds of every
member. -/
theorem Member.inductionOnMembers {motive : Member → Prop}
    (field : ∀ declaration, motive (.field declaration))
    (method : ∀ declaration, motive (.method declaration))
    (nested : ∀ header body, (∀ member ∈ body, motive member) → motive (.nested header body))
    (member : Member) : motive member := by
  match member with
  | .field declaration => exact field declaration
  | .method declaration => exact method declaration
  | .nested header body =>
    exact nested header body fun inner inside =>
      inductionOnMembers field method nested inner
termination_by sizeOf member
decreasing_by
  have smaller := List.sizeOf_lt_of_mem inside
  simp only [Member.nested.sizeOf_spec]
  omega

/-- A field or method as it is; nothing for a nested class. -/
def Member.outline : Member → Option Member
  | .field declaration => some (.field declaration)
  | .method declaration => some (.method declaration)
  | .nested _ _ => none

/-- A class with the header, the fields and the methods of another one, in the same places. -/
structure ClassDeclaration.Alike (declared current : ClassDeclaration) : Prop where
  header : current.header = declared.header
  outline : current.body.map Member.outline = declared.body.map Member.outline

/-- What a change is given at a position is the class there, but for its nested classes. -/
theorem ClassPosition.given_alike (change : ClassChange) (position : ClassPosition) :
    position.declaration.Alike (position.given change) := by
  refine ⟨rfl, ?_⟩
  rw [ClassPosition.given, Member.changedAll_eq_map, List.map_map]
  apply List.map_congr_left
  intro member _
  cases member <;> simp only [Function.comp_apply, Member.changed, Member.outline]

/-- Parts with replacements, each part replaced where it is to be. -/
theorem replaceParts_exact {α : Type} (parts : List (α × Option α)) :
    (replaceParts parts).getD (parts.map Prod.fst) =
      parts.map fun part => part.2.getD part.1 := by
  induction parts with
  | nil => rfl
  | cons part rest inductionHypothesis =>
    rcases part with ⟨part, replacement⟩
    rw [List.map_cons, List.map_cons, ← inductionHypothesis]
    cases replacement with
    | none => cases replaced : replaceParts rest <;> simp [replaceParts, replaced]
    | some new => simp [replaceParts]

/-- Amounts over a list of lists add up list by list. -/
theorem sum_map_flatMap {α β σ : Type} [AddMonoid σ] (parts : List α) (inner : α → List β)
    (amount : β → σ) :
    ((parts.flatMap inner).map amount).sum =
      (parts.map fun part => ((inner part).map amount).sum).sum := by
  rw [List.map_flatMap, List.flatMap_def, List.sum_flatten, List.map_map]
  rfl

section Parts

variable {ω σ ε α : Type}

/-- Works on the parts of a list, from first to last; each comes with what replaces it. -/
def replaceEach (work : α → Work ω σ ε (Option α)) : List α → Work ω σ ε (List (α × Option α)) :=
  Work.forEach fun part => do
    let replacement ← work part
    pure (part, replacement)

/-- Work on every part ends as the parts do, one after the other. -/
theorem gives_replaceEach_cons (work : α → Work ω σ ε (Option α)) (part : α) (rest : List α)
    (before after : σ) (replaced : List (α × Option α)) :
    (replaceEach work (part :: rest)).Gives before after replaced ↔
      ∃ middle replacement others, (work part).Gives before middle replacement ∧
        (replaceEach work rest).Gives middle after others ∧
        replaced = (part, replacement) :: others := by
  rw [replaceEach, Work.gives_forEach_cons]
  simp only [Work.gives_bind, Work.gives_pure]
  constructor
  · rintro ⟨middle, value, others, ⟨_, replacement, first, rfl, rfl⟩, tail, rfl⟩
    exact ⟨_, replacement, others, first, tail, rfl⟩
  · rintro ⟨middle, replacement, others, first, tail, rfl⟩
    exact ⟨middle, _, others, ⟨middle, replacement, first, rfl, rfl⟩, tail, rfl⟩

/-- Where every part is replaced by a known one and adds a known amount to the state, the list is
replaced part by part and adds the sum. -/
theorem replaceEach_makes [AddMonoid σ] (work : α → Work ω σ ε (Option α)) (new : α → α)
    (effect : α → σ) (parts : List α)
    (makes : ∀ part ∈ parts, ∀ before after replacement,
      (work part).Gives before after replacement →
      replacement.getD part = new part ∧ after = before + effect part)
    (before after : σ) (replaced : List (α × Option α))
    (worked : (replaceEach work parts).Gives before after replaced) :
    (replaceParts replaced).getD parts = parts.map new ∧
      after = before + (parts.map effect).sum := by
  suffices kept : replaced.map Prod.fst = parts ∧
      (replaced.map fun part => part.2.getD part.1) = parts.map new ∧
      after = before + (parts.map effect).sum by
    obtain ⟨fst, values, grown⟩ := kept
    have exact := replaceParts_exact replaced
    rw [fst, values] at exact
    exact ⟨exact, grown⟩
  induction parts generalizing before replaced with
  | nil =>
    obtain ⟨rfl, rfl⟩ := (Work.gives_forEach_nil ..).mp worked
    simp
  | cons part rest inductionHypothesis =>
    obtain ⟨middle, replacement, others, first, tail, rfl⟩ :=
      (gives_replaceEach_cons ..).mp worked
    obtain ⟨value, grown⟩ := makes part List.mem_cons_self before middle replacement first
    obtain ⟨fst, values, grownLater⟩ := inductionHypothesis
      (fun later inside => makes later (List.mem_cons_of_mem part inside)) middle others tail
    refine ⟨by rw [List.map_cons, fst], ?_, ?_⟩
    · rw [List.map_cons, List.map_cons, values, value]
    · rw [grownLater, grown, List.map_cons, List.sum_cons, add_assoc]

/-- Where every part can be left, the list can. -/
theorem replaceEach_leaves [AddMonoid σ] (work : α → Work ω σ ε (Option α)) (effect : α → σ)
    (parts : List α)
    (leaves : ∀ part ∈ parts, ∀ before, (work part).Gives before (before + effect part) none)
    (before : σ) :
    ∃ replaced, (replaceEach work parts).Gives before (before + (parts.map effect).sum) replaced ∧
      replaceParts replaced = none := by
  induction parts generalizing before with
  | nil => exact ⟨[], (Work.gives_forEach_nil ..).mpr (by simp), rfl⟩
  | cons part rest inductionHypothesis =>
    have first := leaves part List.mem_cons_self before
    obtain ⟨others, tail, left⟩ := inductionHypothesis
      (fun later inside => leaves later (List.mem_cons_of_mem part inside)) (before + effect part)
    refine ⟨(part, none) :: others,
      (gives_replaceEach_cons ..).mpr ⟨_, none, others, first, ?_, rfl⟩, ?_⟩
    · rwa [List.map_cons, List.sum_cons, ← add_assoc]
    · simp only [replaceParts, left]

/-- Work on the parts of a list fails only if it does on one of them. -/
theorem replaceEach_fails (work : α → Work ω σ ε (Option α)) (parts : List α) (before : σ)
    (failure : ε) (failed : (replaceEach work parts).Fails before failure) :
    ∃ part ∈ parts, ∃ reached, (work part).Fails reached failure := by
  obtain ⟨part, inside, reached, failing⟩ := Work.fails_forEach _ parts before failure failed
  rw [Work.fails_bind] at failing
  exact ⟨part, inside, reached, failing.resolve_right (by simp)⟩

end Parts

section Visit

variable {ω σ ε : Type}

/-- What follows on the nested classes of a class: the visit, and an answer if anything came of
either. The answer may be wrapped, as it is for a nested class. -/
def Visitor.conclude {α : Type} (visit : Visitor (Work ω σ ε)) (position : ClassPosition)
    (replaced : List (Member × Option Member)) (wrap : ClassDeclaration → α) :
    Work ω σ ε (Option α) := do
  let current : ClassDeclaration :=
    ⟨position.declaration.header, (replaceParts replaced).getD position.declaration.body⟩
  let visited ← visit position current
  match visited, replaceParts replaced with
  | some new, _ => pure (some (wrap new))
  | none, some _ => pure (some (wrap current))
  | none, none => pure none

/-- Members are rebuilt like the parts of any list. -/
theorem Member.rebuildAll_eq (visit : Visitor (Work ω σ ε)) (enclosing : List ClassDeclaration)
    (body : List Member) :
    Member.rebuildAll visit enclosing body = replaceEach (Member.rebuild visit enclosing) body := by
  induction body with
  | nil => rw [Member.rebuildAll]; rfl
  | cons member rest inductionHypothesis =>
    rw [Member.rebuildAll, inductionHypothesis, replaceEach, Work.forEach]
    simp only [bind_assoc, pure_bind]

/-- Classes are rebuilt like the parts of any list. -/
theorem ClassDeclaration.rebuildAll_eq (visit : Visitor (Work ω σ ε))
    (declarations : List ClassDeclaration) :
    ClassDeclaration.rebuildAll visit declarations =
      replaceEach (ClassDeclaration.rebuild visit) declarations := by
  induction declarations with
  | nil => rfl
  | cons declaration rest inductionHypothesis =>
    rw [ClassDeclaration.rebuildAll, inductionHypothesis, replaceEach, Work.forEach]
    simp only [bind_assoc, pure_bind]

/-- A nested class is rebuilt by way of its members. -/
theorem Member.rebuild_nested (visit : Visitor (Work ω σ ε)) (enclosing : List ClassDeclaration)
    (header : ClassHeader) (body : List Member) :
    (Member.nested header body).rebuild visit enclosing =
      (replaceEach (Member.rebuild visit (⟨header, body⟩ :: enclosing)) body >>= fun replaced =>
        visit.conclude ⟨⟨header, body⟩, enclosing⟩ replaced
          fun new => .nested new.header new.body) := by
  rw [Member.rebuild, Member.rebuildAll_eq]
  rfl

/-- A class that stands alone is rebuilt by way of its members. -/
theorem ClassDeclaration.rebuild_eq (visit : Visitor (Work ω σ ε))
    (declaration : ClassDeclaration) :
    declaration.rebuild visit =
      (replaceEach (Member.rebuild visit [declaration]) declaration.body >>= fun replaced =>
        visit.conclude ⟨declaration, []⟩ replaced id) := by
  rw [ClassDeclaration.rebuild, Member.rebuildAll_eq]
  rfl

/-- A visitor that completes makes a change and adds to the state, given a class like the one at the
position. -/
def Visitor.Makes [AddMonoid σ] (visit : Visitor (Work ω σ ε)) (change : ClassChange)
    (effect : ClassPosition → σ) : Prop :=
  ∀ position current before after answer, position.declaration.Alike current →
    (visit position current).Gives before after answer →
    answer.getD current = change position current ∧ after = before + effect position

/-- Once the nested classes of a class are changed, its visit leaves the changed class. -/
theorem Visitor.conclude_makes [AddMonoid σ] {α : Type} {visit : Visitor (Work ω σ ε)}
    {change : ClassChange} {effect : ClassPosition → σ} (makes : visit.Makes change effect)
    (position : ClassPosition) (replaced : List (Member × Option Member))
    (wrap : ClassDeclaration → α) (before after : σ) (answer : Option α)
    (inner : (replaceParts replaced).getD position.declaration.body = (position.given change).body)
    (concluded : (visit.conclude position replaced wrap).Gives before after answer) :
    answer.getD (wrap position.declaration) = wrap (position.changed change) ∧
      after = before + effect position := by
  have current : (⟨position.declaration.header,
      (replaceParts replaced).getD position.declaration.body⟩ : ClassDeclaration) =
        position.given change := by
    rw [inner]
    rfl
  rw [conclude, current, Work.gives_bind] at concluded
  obtain ⟨final, visited, visiting, ended⟩ := concluded
  obtain ⟨changed, added⟩ :=
    makes position _ before final visited (position.given_alike change) visiting
  rw [ClassPosition.changed, ← changed]
  cases visited with
  | some new =>
    obtain ⟨rfl, rfl⟩ := (Work.gives_pure ..).mp ended
    exact ⟨rfl, added⟩
  | none =>
    cases untouched : replaceParts replaced with
    | some others =>
      rw [untouched] at ended
      obtain ⟨rfl, rfl⟩ := (Work.gives_pure ..).mp ended
      exact ⟨rfl, added⟩
    | none =>
      rw [untouched] at ended current
      obtain ⟨rfl, rfl⟩ := (Work.gives_pure ..).mp ended
      exact ⟨congrArg wrap current, added⟩

/-- A rebuilt member is changed, and the state has grown by the effects at its classes.

The induction follows the nesting. A nested class is visited after its members are rebuilt, while
its position stands in front of theirs; as sums do not depend on the order, the effects add up. -/
theorem Member.rebuild_makes [AddCommMonoid σ] {visit : Visitor (Work ω σ ε)}
    {change : ClassChange} {effect : ClassPosition → σ} (makes : visit.Makes change effect)
    (member : Member) (enclosing : List ClassDeclaration) (before after : σ)
    (answer : Option Member)
    (rebuilt : (member.rebuild visit enclosing).Gives before after answer) :
    answer.getD member = member.changed change enclosing ∧
      after = before + ((member.positions enclosing).map effect).sum := by
  induction member using Member.inductionOnMembers generalizing enclosing before after answer with
  | field declaration =>
    rw [Member.rebuild, Work.gives_pure] at rebuilt
    obtain ⟨rfl, rfl⟩ := rebuilt
    simp [Member.changed, Member.positions]
  | method declaration =>
    rw [Member.rebuild, Work.gives_pure] at rebuilt
    obtain ⟨rfl, rfl⟩ := rebuilt
    simp [Member.changed, Member.positions]
  | nested header body inductionHypothesis =>
    rw [Member.rebuild_nested, Work.gives_bind] at rebuilt
    obtain ⟨middle, replaced, inner, concluded⟩ := rebuilt
    obtain ⟨values, grown⟩ := replaceEach_makes _
      (Member.changed change (⟨header, body⟩ :: enclosing))
      (fun member => ((member.positions (⟨header, body⟩ :: enclosing)).map effect).sum) body
      (fun member inside before after answer => inductionHypothesis member inside _ _ _ _)
      before middle replaced inner
    rw [← Member.changedAll_eq_map] at values
    obtain ⟨changed, added⟩ := Visitor.conclude_makes makes ⟨⟨header, body⟩, enclosing⟩ replaced _
      middle after answer values concluded
    rw [Member.changed_nested]
    refine ⟨changed, ?_⟩
    rw [added, grown, Member.positions, Member.positionsAll_eq_flatMap, List.map_cons,
      List.sum_cons, sum_map_flatMap, add_assoc, add_comm (effect _)]

/-- A rebuilt class that stands alone is changed, and the state has grown by the effects at its
classes. -/
theorem ClassDeclaration.rebuild_makes [AddCommMonoid σ] {visit : Visitor (Work ω σ ε)}
    {change : ClassChange} {effect : ClassPosition → σ} (makes : visit.Makes change effect)
    (declaration : ClassDeclaration) (before after : σ) (answer : Option ClassDeclaration)
    (rebuilt : (declaration.rebuild visit).Gives before after answer) :
    answer.getD declaration = ClassPosition.changed change ⟨declaration, []⟩ ∧
      after = before + (declaration.positions.map effect).sum := by
  rw [ClassDeclaration.rebuild_eq, Work.gives_bind] at rebuilt
  obtain ⟨middle, replaced, inner, concluded⟩ := rebuilt
  obtain ⟨values, grown⟩ := replaceEach_makes _ (Member.changed change [declaration])
    (fun member => ((member.positions [declaration]).map effect).sum) declaration.body
    (fun member _ => Member.rebuild_makes makes member [declaration])
    before middle replaced inner
  rw [← Member.changedAll_eq_map] at values
  obtain ⟨changed, added⟩ := Visitor.conclude_makes makes ⟨declaration, []⟩ replaced id
    middle after answer values concluded
  refine ⟨changed, ?_⟩
  rw [added, grown, ClassDeclaration.positions, Member.positionsAll_eq_flatMap, List.map_cons,
    List.sum_cons, sum_map_flatMap, add_assoc, add_comm (effect _)]

/-- A rebuilt file is changed at all its classes, and the state has grown by the effects there. -/
theorem CompilationUnit.rebuild_makes [AddCommMonoid σ] {visit : Visitor (Work ω σ ε)}
    {change : ClassChange} {effect : ClassPosition → σ} (makes : visit.Makes change effect)
    (unit : CompilationUnit) (before after : σ) (answer : Option CompilationUnit)
    (rebuilt : (unit.rebuild visit).Gives before after answer) :
    answer.getD unit = unit.changed change ∧
      after = before + (unit.positions.map effect).sum := by
  rw [CompilationUnit.rebuild, ClassDeclaration.rebuildAll_eq, Work.gives_bind] at rebuilt
  obtain ⟨middle, replaced, inner, ended⟩ := rebuilt
  obtain ⟨values, grown⟩ := replaceEach_makes _
    (fun declaration => ClassPosition.changed change ⟨declaration, []⟩)
    (fun declaration => (declaration.positions.map effect).sum) unit.classes
    (fun declaration _ => ClassDeclaration.rebuild_makes makes declaration)
    before middle replaced inner
  obtain ⟨rfl, rfl⟩ := (Work.gives_pure ..).mp ended
  refine ⟨?_, by rw [grown, CompilationUnit.positions, sum_map_flatMap]⟩
  rw [CompilationUnit.changed, ← values]
  cases replaceParts replaced <;> rfl

/-- A visitor leaves a class and adds to the state. -/
def Visitor.Leaves [AddMonoid σ] (visit : Visitor (Work ω σ ε)) (effect : ClassPosition → σ)
    (position : ClassPosition) : Prop :=
  ∀ before, (visit position position.declaration).Gives before (before + effect position) none

/-- Where nothing came of the nested classes and the visitor leaves the class, nothing does of the
class. -/
theorem Visitor.conclude_leaves [AddMonoid σ] {α : Type} {visit : Visitor (Work ω σ ε)}
    {effect : ClassPosition → σ} {position : ClassPosition}
    (leaves : visit.Leaves effect position) (replaced : List (Member × Option Member))
    (wrap : ClassDeclaration → α) (before : σ) (untouched : replaceParts replaced = none) :
    (visit.conclude position replaced wrap).Gives before (before + effect position) none := by
  rw [conclude, untouched, Work.gives_bind]
  exact ⟨before + effect position, none, leaves before, (Work.gives_pure ..).mpr ⟨rfl, rfl⟩⟩

/-- Nothing comes of a member at whose classes the visitor leaves everything. -/
theorem Member.rebuild_leaves [AddCommMonoid σ] {visit : Visitor (Work ω σ ε)}
    {effect : ClassPosition → σ} (member : Member) (enclosing : List ClassDeclaration)
    (leaves : ∀ position ∈ member.positions enclosing, visit.Leaves effect position) (before : σ) :
    (member.rebuild visit enclosing).Gives before
      (before + ((member.positions enclosing).map effect).sum) none := by
  induction member using Member.inductionOnMembers generalizing enclosing before with
  | field declaration =>
    rw [Member.rebuild, Work.gives_pure]
    simp [Member.positions]
  | method declaration =>
    rw [Member.rebuild, Work.gives_pure]
    simp [Member.positions]
  | nested header body inductionHypothesis =>
    rw [Member.positions, Member.positionsAll_eq_flatMap, List.forall_mem_cons] at leaves
    obtain ⟨own, others⟩ := leaves
    obtain ⟨replaced, inner, untouched⟩ := replaceEach_leaves
      (Member.rebuild visit (⟨header, body⟩ :: enclosing))
      (fun member => ((member.positions (⟨header, body⟩ :: enclosing)).map effect).sum) body
      (fun member inside => inductionHypothesis member inside _ fun position found =>
        others position (List.mem_flatMap.mpr ⟨member, inside, found⟩)) before
    rw [Member.rebuild_nested, Work.gives_bind]
    refine ⟨_, replaced, inner, ?_⟩
    rw [Member.positions, Member.positionsAll_eq_flatMap, List.map_cons, List.sum_cons,
      sum_map_flatMap, add_comm (effect _), ← add_assoc]
    exact Visitor.conclude_leaves own replaced _ _ untouched

/-- Nothing comes of a class alone at which, and inside which, the visitor leaves everything. -/
theorem ClassDeclaration.rebuild_leaves [AddCommMonoid σ] {visit : Visitor (Work ω σ ε)}
    {effect : ClassPosition → σ} (declaration : ClassDeclaration)
    (leaves : ∀ position ∈ declaration.positions, visit.Leaves effect position) (before : σ) :
    (declaration.rebuild visit).Gives before
      (before + (declaration.positions.map effect).sum) none := by
  rw [ClassDeclaration.positions, Member.positionsAll_eq_flatMap, List.forall_mem_cons] at leaves
  obtain ⟨own, others⟩ := leaves
  obtain ⟨replaced, inner, untouched⟩ := replaceEach_leaves (Member.rebuild visit [declaration])
    (fun member => ((member.positions [declaration]).map effect).sum) declaration.body
    (fun member inside => member.rebuild_leaves [declaration] fun position found =>
      others position (List.mem_flatMap.mpr ⟨member, inside, found⟩)) before
  rw [ClassDeclaration.rebuild_eq, Work.gives_bind]
  refine ⟨_, replaced, inner, ?_⟩
  rw [ClassDeclaration.positions, Member.positionsAll_eq_flatMap, List.map_cons, List.sum_cons,
    sum_map_flatMap, add_comm (effect _), ← add_assoc]
  exact Visitor.conclude_leaves own replaced _ _ untouched

/-- Nothing comes of a file at whose classes the visitor leaves everything. -/
theorem CompilationUnit.rebuild_leaves [AddCommMonoid σ] (unit : CompilationUnit)
    (visit : Visitor (Work ω σ ε)) (effect : ClassPosition → σ)
    (leaves : ∀ position ∈ unit.positions, visit.Leaves effect position) (before : σ) :
    (unit.rebuild visit).Gives before (before + (unit.positions.map effect).sum) none := by
  obtain ⟨replaced, inner, untouched⟩ := replaceEach_leaves (ClassDeclaration.rebuild visit)
    (fun declaration => (declaration.positions.map effect).sum) unit.classes
    (fun declaration inside => declaration.rebuild_leaves fun position found =>
      leaves position (List.mem_flatMap.mpr ⟨declaration, inside, found⟩)) before
  rw [CompilationUnit.rebuild, ClassDeclaration.rebuildAll_eq, Work.gives_bind]
  refine ⟨_, replaced, inner, (Work.gives_pure ..).mpr ⟨?_, by rw [untouched]; rfl⟩⟩
  rw [CompilationUnit.positions, sum_map_flatMap]

/-- The visitor can fail with a failure, whatever the position and the class given. -/
def Visitor.CanFail (visit : Visitor (Work ω σ ε)) (failure : ε) : Prop :=
  ∃ position current reached, (visit position current).Fails reached failure

/-- The rest of the work on a class fails only if the visitor does. -/
theorem Visitor.conclude_fails {α : Type} {visit : Visitor (Work ω σ ε)}
    (position : ClassPosition) (replaced : List (Member × Option Member))
    (wrap : ClassDeclaration → α) (before : σ) (failure : ε)
    (failed : (visit.conclude position replaced wrap).Fails before failure) :
    visit.CanFail failure := by
  rw [conclude, Work.fails_bind] at failed
  rcases failed with visiting | ⟨middle, visited, _, ended⟩
  · exact ⟨position, _, before, visiting⟩
  · revert ended
    cases visited <;> cases replaceParts replaced <;> simp

/-- A member is not rebuilt only if the visitor fails. -/
theorem Member.rebuild_fails {visit : Visitor (Work ω σ ε)} (member : Member)
    (enclosing : List ClassDeclaration) (before : σ) (failure : ε)
    (failed : (member.rebuild visit enclosing).Fails before failure) : visit.CanFail failure := by
  induction member using Member.inductionOnMembers generalizing enclosing before with
  | field declaration => exact absurd failed (by simp [Member.rebuild])
  | method declaration => exact absurd failed (by simp [Member.rebuild])
  | nested header body inductionHypothesis =>
    rw [Member.rebuild_nested, Work.fails_bind] at failed
    rcases failed with inner | ⟨middle, replaced, _, concluded⟩
    · obtain ⟨member, inside, reached, failing⟩ := replaceEach_fails _ body before failure inner
      exact inductionHypothesis member inside _ reached failing
    · exact Visitor.conclude_fails _ replaced _ middle failure concluded

/-- A file is not rebuilt only if the visitor fails. -/
theorem CompilationUnit.rebuild_fails {visit : Visitor (Work ω σ ε)} (unit : CompilationUnit)
    (before : σ) (failure : ε) (failed : (unit.rebuild visit).Fails before failure) :
    visit.CanFail failure := by
  rw [CompilationUnit.rebuild, ClassDeclaration.rebuildAll_eq, Work.fails_bind] at failed
  have classes := failed.resolve_right (by simp)
  obtain ⟨declaration, _, reached, failing⟩ :=
    replaceEach_fails _ unit.classes before failure classes
  rw [ClassDeclaration.rebuild_eq, Work.fails_bind] at failing
  rcases failing with inner | ⟨middle, replaced, _, concluded⟩
  · obtain ⟨member, _, later, failing⟩ :=
      replaceEach_fails _ declaration.body reached failure inner
    exact member.rebuild_fails _ later failure failing
  · exact Visitor.conclude_fails _ replaced _ middle failure concluded

end Visit

end TypedDefaults.Java
