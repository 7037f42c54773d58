import TypedDefaults.Proofs.Rebuilding

/-!
# The order of visits

Rebuilding a file visits its classes one after the other, and each visit is given
the class with its nested classes changed already. So a rebuilding is, but for
its answer, work on a list of positions: what it does to the state, what it makes
known and whether it fails are those of the visits in their order.
-/

namespace TypedDefaults

namespace Work

variable {ω σ ε α β γ δ : Type}

/-- The work without its value. -/
def forget (work : Work ω σ ε α) : Work ω σ ε Unit := work >>= fun _ => pure ()

@[simp] theorem forget_pure (value : α) :
    forget (pure value : Work ω σ ε α) = pure () := pure_bind _ _

@[simp] theorem forget_bind (first : Work ω σ ε α) (next : α → Work ω σ ε β) :
    forget (first >>= next) = first >>= fun value => forget (next value) :=
  bind_assoc _ _ _

/-- Where the value is not used, it may as well be forgotten. -/
theorem bind_forget (first : Work ω σ ε α) (next : Work ω σ ε β) :
    (forget first >>= fun _ => next) = first >>= fun _ => next := by
  rw [forget, bind_assoc]
  simp only [pure_bind]

/-- What follows on work only matters for the values that the work gives. -/
theorem bind_congr_of_gives (first : Work ω σ ε α) (next other : α → Work ω σ ε β)
    (same : ∀ before middle value, Gives first before middle value → next value = other value) :
    (first >>= next) = first >>= other := by
  funext before
  rcases ended : first before with ⟨middle, known, outcome⟩
  cases outcome with
  | error failure => rw [bind_of_error ended, bind_of_error ended]
  | ok value =>
    have given : Gives first before middle value := by simp [Gives, ended]
    rw [bind_of_ok ended, bind_of_ok ended, same before middle value given]

/-- Forgotten work ends where the work does. -/
theorem gives_forget (work : Work ω σ ε α) (before after : σ) (given : Unit) :
    Gives (forget work) before after given ↔ ∃ value, Gives work before after value := by
  rw [forget, gives_bind]
  constructor
  · rintro ⟨_, value, worked, ended⟩
    obtain ⟨rfl, _⟩ := (gives_pure ..).mp ended
    exact ⟨value, worked⟩
  · rintro ⟨value, worked⟩
    exact ⟨after, value, worked, (gives_pure ..).mpr ⟨rfl, rfl⟩⟩

/-- Forgotten work fails where the work does. -/
@[simp] theorem fails_forget (work : Work ω σ ε α) (before : σ) (failure : ε) :
    Fails (forget work) before failure ↔ Fails work before failure := by
  rw [forget, fails_bind]
  simp

/-- Forgotten work makes known what the work does. -/
@[simp] theorem known_forget (work : Work ω σ ε α) (before : σ) :
    (forget work before).known = (work before).known := by
  rcases ended : work before with ⟨after, known, outcome⟩
  cases outcome with
  | error failure => rw [forget, bind_of_error ended]
  | ok value => simp [forget, bind_of_ok ended]

/-- Work on a list is work on its first part and then on the others. -/
theorem forget_forEach_cons (work : α → Work ω σ ε β) (part : α) (rest : List α) :
    forget (forEach work (part :: rest)) =
      work part >>= fun _ => forget (forEach work rest) := by
  have unfolded : forEach work (part :: rest) =
      (work part >>= fun value => forEach work rest >>= fun values => pure (value :: values)) := rfl
  simp only [unfolded, forget_bind, forget_pure]
  rfl

/-- Work on two lists is work on the first and then on the second. -/
theorem forget_forEach_append (work : α → Work ω σ ε β) (front back : List α) :
    forget (forEach work (front ++ back)) =
      forget (forEach work front) >>= fun _ => forget (forEach work back) := by
  induction front with
  | nil => exact (pure_bind ..).symm
  | cons part rest inductionHypothesis =>
    rw [List.cons_append, forget_forEach_cons, forget_forEach_cons, inductionHypothesis, bind_assoc]

/-- Where the work on each part is work on a list, the whole is work on all the lists. -/
theorem forget_forEach_flatMap (work : α → Work ω σ ε β) (step : γ → Work ω σ ε δ)
    (inner : α → List γ) (parts : List α)
    (same : ∀ part ∈ parts, forget (work part) = forget (forEach step (inner part))) :
    forget (forEach work parts) = forget (forEach step (parts.flatMap inner)) := by
  induction parts with
  | nil => rfl
  | cons part rest inductionHypothesis =>
    rw [List.forall_mem_cons] at same
    rw [List.flatMap_cons, forget_forEach_append, forget_forEach_cons,
      inductionHypothesis same.2, ← same.1, bind_forget]

end Work

namespace Java

mutual

/-- The class positions of a member, nested classes in front of the class that holds them. -/
def Member.visits (enclosing : List ClassDeclaration) : Member → List ClassPosition
  | .field _ => []
  | .method _ => []
  | .nested header body =>
    Member.visitsAll (⟨header, body⟩ :: enclosing) body ++ [⟨⟨header, body⟩, enclosing⟩]

/-- The class positions of members as they are visited. -/
def Member.visitsAll (enclosing : List ClassDeclaration) : List Member → List ClassPosition
  | [] => []
  | member :: rest => member.visits enclosing ++ Member.visitsAll enclosing rest

end

/-- The nested classes of a class, and then the class itself. -/
def ClassDeclaration.visits (declaration : ClassDeclaration) : List ClassPosition :=
  Member.visitsAll [declaration] declaration.body ++ [⟨declaration, []⟩]

/-- Every class of a file, nested ones first, otherwise in source order. -/
def CompilationUnit.visits (unit : CompilationUnit) : List ClassPosition :=
  unit.classes.flatMap ClassDeclaration.visits

/-- The visits of members are those of each of them. -/
theorem Member.visitsAll_eq_flatMap (enclosing : List ClassDeclaration) (body : List Member) :
    Member.visitsAll enclosing body = body.flatMap (Member.visits enclosing) := by
  induction body with
  | nil => rw [Member.visitsAll, List.flatMap_nil]
  | cons member rest inductionHypothesis =>
    rw [Member.visitsAll, inductionHypothesis, List.flatMap_cons]

/-- Each class of a member is visited once. -/
theorem Member.visits_perm (member : Member) (enclosing : List ClassDeclaration) :
    (member.visits enclosing).Perm (member.positions enclosing) := by
  induction member using Member.inductionOnMembers generalizing enclosing with
  | field declaration => simp [Member.visits, Member.positions]
  | method declaration => simp [Member.visits, Member.positions]
  | nested header body inductionHypothesis =>
    rw [Member.visits, Member.positions, Member.visitsAll_eq_flatMap,
      Member.positionsAll_eq_flatMap]
    refine List.perm_append_comm.trans (List.Perm.cons _ (List.Perm.flatMap_left body ?_))
    exact fun member inside => inductionHypothesis member inside _

/-- Each class of a file is visited once. -/
theorem CompilationUnit.visits_perm (unit : CompilationUnit) :
    unit.visits.Perm unit.positions := by
  refine List.Perm.flatMap_left unit.classes fun declaration _ => ?_
  rw [ClassDeclaration.visits, ClassDeclaration.positions, Member.visitsAll_eq_flatMap,
    Member.positionsAll_eq_flatMap]
  refine List.perm_append_comm.trans (List.Perm.cons _ (List.Perm.flatMap_left _ ?_))
  exact fun member _ => member.visits_perm [declaration]

section Visit

variable {ω σ ε : Type} [AddCommMonoid σ] {visit : Visitor (Work ω σ ε)} {change : ClassChange}
  {effect : ClassPosition → σ}

/-- The visit at a position of a rebuilding that makes a change. -/
def Visitor.at (visit : Visitor (Work ω σ ε)) (change : ClassChange) (position : ClassPosition) :
    Work ω σ ε (Option ClassDeclaration) := visit position (position.given change)

omit [AddCommMonoid σ] in
/-- The work on a class is its visit, once its nested classes are changed. -/
theorem Visitor.forget_conclude {α : Type} (visit : Visitor (Work ω σ ε))
    (position : ClassPosition) (replaced : List (Member × Option Member))
    (wrap : ClassDeclaration → α) :
    Work.forget (visit.conclude position replaced wrap) =
      Work.forget (visit position ⟨position.declaration.header,
        (replaceParts replaced).getD position.declaration.body⟩) := by
  rw [conclude, Work.forget_bind]
  refine congrArg _ (funext fun visited => ?_)
  cases visited <;> cases replaceParts replaced <;> exact Work.forget_pure _

/-- The work on the members of a class and then on the class is the visits of all of them, if each
member is rebuilt by its visits. -/
theorem Visitor.forget_concluded {α : Type} (makes : visit.Makes change effect)
    (position : ClassPosition) (wrap : ClassDeclaration → α)
    (members : ∀ member ∈ position.declaration.body,
      Work.forget (member.rebuild visit position.chain) =
        Work.forget (Work.forEach (visit.at change) (member.visits position.chain))) :
    Work.forget (replaceEach (Member.rebuild visit position.chain) position.declaration.body >>=
        fun replaced => visit.conclude position replaced wrap) =
      Work.forget (Work.forEach (visit.at change)
        (Member.visitsAll position.chain position.declaration.body ++ [position])) := by
  have inner : Work.forget
      (replaceEach (Member.rebuild visit position.chain) position.declaration.body) =
        Work.forget (Work.forEach (visit.at change)
          (Member.visitsAll position.chain position.declaration.body)) := by
    rw [Member.visitsAll_eq_flatMap, replaceEach]
    refine Work.forget_forEach_flatMap _ _ _ _ fun member inside => ?_
    rw [← members member inside]
    simp [Work.forget]
  have given : ∀ before middle replaced,
      (replaceEach (Member.rebuild visit position.chain) position.declaration.body).Gives before
        middle replaced →
      Work.forget (visit.conclude position replaced wrap) =
        Work.forget (visit.at change position) := by
    intro before middle replaced worked
    obtain ⟨values, _⟩ := replaceEach_makes _ (Member.changed change position.chain)
      (fun member => ((member.positions position.chain).map effect).sum) _
      (fun member _ => Member.rebuild_makes makes member position.chain)
      before middle replaced worked
    rw [Visitor.forget_conclude, values, ← Member.changedAll_eq_map]
    rfl
  rw [Work.forget_bind, Work.bind_congr_of_gives _ _ _ given, ← Work.bind_forget, inner,
    Work.forget_forEach_append, Work.forget_forEach_cons]
  rfl

/-- A member is rebuilt by its visits. -/
theorem Member.forget_rebuild (makes : visit.Makes change effect) (member : Member)
    (enclosing : List ClassDeclaration) :
    Work.forget (member.rebuild visit enclosing) =
      Work.forget (Work.forEach (visit.at change) (member.visits enclosing)) := by
  induction member using Member.inductionOnMembers generalizing enclosing with
  | field declaration => simp [Member.rebuild, Member.visits, Work.forEach, Work.forget]; rfl
  | method declaration => simp [Member.rebuild, Member.visits, Work.forEach, Work.forget]; rfl
  | nested header body inductionHypothesis =>
    rw [Member.rebuild_nested, Member.visits]
    exact Visitor.forget_concluded makes ⟨⟨header, body⟩, enclosing⟩ _
      fun member inside => inductionHypothesis member inside _

/-- A file is rebuilt by its visits, each at a class whose nested classes are changed. -/
theorem CompilationUnit.forget_rebuild (makes : visit.Makes change effect)
    (unit : CompilationUnit) :
    Work.forget (unit.rebuild visit) =
      Work.forget (Work.forEach (visit.at change) unit.visits) := by
  rw [CompilationUnit.rebuild, ClassDeclaration.rebuildAll_eq, Work.forget_bind]
  simp only [Work.forget_pure]
  rw [CompilationUnit.visits, replaceEach]
  refine Work.forget_forEach_flatMap _ _ _ _ fun declaration _ => ?_
  rw [Work.forget_bind]
  simp only [Work.forget_pure]
  change Work.forget (declaration.rebuild visit) = _
  rw [ClassDeclaration.rebuild_eq, ClassDeclaration.visits]
  exact Visitor.forget_concluded makes ⟨declaration, []⟩ id
    fun member _ => Member.forget_rebuild makes member _

end Visit

end Java

end TypedDefaults
