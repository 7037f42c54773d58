import TypedDefaults.Java.Source
import TypedDefaults.Proofs.Rebuilding

/-!
# Calls of a visitor

Equal classes may stand at different places of a file, and a visitor with a state
may answer them differently; so its answers are told apart by places, which are
indices from the outermost class inwards. A site is a position of a file with
its place.

Rebuilding a file calls the visitor once at each site, nested classes first. A
call is given the class at the site with its directly nested classes replaced by
what the calls at their places left. The file comes out with the same
replacement of its own classes, and as it was if every call left the class that
it was given.
-/

namespace TypedDefaults

/-- What is left behind when things were made known before. -/
def Done.after {ω σ ε α : Type} (known : List ω) (ending : Done ω σ ε α) : Done ω σ ε α :=
  { ending with known := known ++ ending.known }

namespace Work

variable {ω σ ε α β : Type}

/-- Started in a state, the work leaves behind what is foretold, and a good value unless it
fails. -/
def EndsAs (work : Work ω σ ε α) (before : σ) (ending : Done ω σ ε Unit) (good : α → Prop) :
    Prop :=
  match ending with
  | ⟨after, known, .ok ()⟩ => ∃ value, work before = ⟨after, known, .ok value⟩ ∧ good value
  | ⟨after, known, .error failure⟩ => work before = ⟨after, known, .error failure⟩

/-- A value leaves everything behind as it was. -/
theorem endsAs_pure {good : α → Prop} (value : α) (before : σ) (fits : good value) :
    (pure value : Work ω σ ε α).EndsAs before ⟨before, [], .ok ()⟩ good :=
  ⟨value, pure_apply value before, fits⟩

/-- Work goes on from where other work ended with a good value. -/
theorem endsAs_bind {first : Work ω σ ε α} {next : α → Work ω σ ε β} {before middle : σ}
    {known : List ω} {ending : Done ω σ ε Unit} {good : α → Prop} {better : β → Prop}
    (begun : first.EndsAs before ⟨middle, known, .ok ()⟩ good)
    (rest : ∀ value, good value → (next value).EndsAs middle ending better) :
    (first >>= next).EndsAs before (ending.after known) better := by
  obtain ⟨value, worked, fits⟩ := begun
  have continued := rest value fits
  rcases ending with ⟨after, further, _ | _⟩
  · have failed : next value middle = ⟨after, further, _⟩ := continued
    change (first >>= next) before = _
    rw [bind_of_ok worked, failed]
  · obtain ⟨last, ended, fine⟩ := continued
    exact ⟨last, by rw [bind_of_ok worked, ended], fine⟩

/-- Work that fails leaves behind nothing more when other work should follow. -/
theorem endsAs_bind_of_fails {first : Work ω σ ε α} {next : α → Work ω σ ε β} {before after : σ}
    {known : List ω} {failure : ε} {better : β → Prop}
    (failed : first before = ⟨after, known, .error failure⟩) :
    (first >>= next).EndsAs before ⟨after, known, .error failure⟩ better :=
  bind_of_error failed

/-- Changing the value does not change what else work leaves behind. -/
theorem endsAs_bind_pure {work : Work ω σ ε α} {change : α → β} {before : σ}
    {ending : Done ω σ ε Unit} {good : α → Prop} {better : β → Prop}
    (ends : work.EndsAs before ending good) (fits : ∀ value, good value → better (change value)) :
    (work >>= fun value => pure (change value)).EndsAs before ending better := by
  rcases ending with ⟨after, known, _ | _⟩
  · exact endsAs_bind_of_fails ends
  · obtain ⟨value, worked, fine⟩ := ends
    exact ⟨change value, by rw [bind_of_ok worked, pure_apply, List.append_nil], fits value fine⟩

end Work

namespace Java

/-- A place in a file: the index of a class among those of the file, and then the index of each
class inwards among the members of the one around it. -/
abbrev Place := List Nat

/-- A class position of a file with its place. -/
structure Site where
  place : Place
  position : ClassPosition
  deriving DecidableEq, Inhabited

/-- The first place is inside the other one, or else earlier in the source. -/
def Place.NestedFirst : Place → Place → Prop
  | [], _ => False
  | _ :: _, [] => True
  | index :: inner, other :: others => index < other ∨ index = other ∧ NestedFirst inner others

/-- Where the site of a class stands among the sites inside it. -/
structure Arrangement where
  arrange : Site → List Site → List Site
  keeps : ∀ own inner, (arrange own inner).Perm (own :: inner)

/-- A class stands in front of those inside it. -/
def Arrangement.outerFirst : Arrangement := ⟨List.cons, fun _ _ => List.Perm.refl _⟩

/-- A class stands behind those inside it. -/
def Arrangement.nestedFirst : Arrangement :=
  ⟨fun own inner => inner ++ [own], fun own inner => List.perm_append_singleton own inner⟩

mutual

/-- The sites of a member at a place inside the given classes. -/
def Member.sites (arrangement : Arrangement) (place : Place) (enclosing : List ClassDeclaration) :
    Member → List Site
  | .field _ => []
  | .method _ => []
  | .nested header body =>
    arrangement.arrange ⟨place, ⟨⟨header, body⟩, enclosing⟩⟩
      (Member.sitesFrom arrangement place (⟨header, body⟩ :: enclosing) 0 body)

/-- The sites of the members from an index on of the class at a place. -/
def Member.sitesFrom (arrangement : Arrangement) (place : Place)
    (enclosing : List ClassDeclaration) (index : Nat) : List Member → List Site
  | [] => []
  | member :: rest =>
    member.sites arrangement (place ++ [index]) enclosing ++
      Member.sitesFrom arrangement place enclosing (index + 1) rest

end

/-- The sites of a file, in source order but for the arrangement of each class. -/
def CompilationUnit.sites (arrangement : Arrangement) (unit : CompilationUnit) : List Site :=
  unit.classes.zipIdx.flatMap fun part => part.1.toMember.sites arrangement [part.2] []

/-- The sites inside the class at a site. -/
def Site.inside (arrangement : Arrangement) (site : Site) : List Site :=
  site.position.declaration.body.zipIdx.flatMap fun part =>
    part.1.sites arrangement (site.place ++ [part.2]) site.position.chain

/-- The position of a member that is a class. -/
def Member.ownPosition? (enclosing : List ClassDeclaration) : Member → Option ClassPosition
  | .field _ => none
  | .method _ => none
  | .nested header body => some ⟨⟨header, body⟩, enclosing⟩

/-- The position of a class directly nested in another one, by its index among the members. -/
def ClassPosition.nested? (position : ClassPosition) (index : Nat) : Option ClassPosition :=
  position.declaration.body[index]?.bind (Member.ownPosition? position.chain)

/-- The class position at a place of a file. -/
def CompilationUnit.position? (unit : CompilationUnit) : Place → Option ClassPosition
  | [] => none
  | index :: inner =>
    unit.classes[index]?.bind fun declaration =>
      inner.foldlM ClassPosition.nested? ⟨declaration, []⟩

/-- The sites of members are those of each of them. -/
theorem Member.sitesFrom_eq (arrangement : Arrangement) (place : Place)
    (enclosing : List ClassDeclaration) (index : Nat) (body : List Member) :
    Member.sitesFrom arrangement place enclosing index body =
      (body.zipIdx index).flatMap fun part =>
        part.1.sites arrangement (place ++ [part.2]) enclosing := by
  induction body generalizing index with
  | nil => rw [Member.sitesFrom, List.zipIdx_nil, List.flatMap_nil]
  | cons member rest inductionHypothesis =>
    rw [Member.sitesFrom, inductionHypothesis, List.zipIdx_cons, List.flatMap_cons]

/-- The sites of a nested class are its own and those inside it. -/
theorem Member.sites_nested (arrangement : Arrangement) (place : Place)
    (enclosing : List ClassDeclaration) (header : ClassHeader) (body : List Member) :
    (Member.nested header body).sites arrangement place enclosing =
      arrangement.arrange ⟨place, ⟨⟨header, body⟩, enclosing⟩⟩
        (Site.inside arrangement ⟨place, ⟨⟨header, body⟩, enclosing⟩⟩) := by
  rw [Member.sites, Member.sitesFrom_eq]
  rfl

/-- The arrangement does not matter for which sites a member has. -/
theorem Member.sites_perm (arrangement : Arrangement) (member : Member) (place : Place)
    (enclosing : List ClassDeclaration) :
    (member.sites arrangement place enclosing).Perm (member.sites .outerFirst place enclosing) := by
  induction member using Member.inductionOnMembers generalizing place enclosing with
  | field declaration => rw [Member.sites, Member.sites]
  | method declaration => rw [Member.sites, Member.sites]
  | nested header body inductionHypothesis =>
    rw [Member.sites_nested, Member.sites_nested]
    refine (arrangement.keeps _ _).trans (List.Perm.cons _ (List.Perm.flatMap_left _ ?_))
    exact fun part indexed =>
      inductionHypothesis part.1 (List.fst_mem_of_mem_zipIdx indexed) _ _

/-- The arrangement does not matter for which sites a file has. -/
theorem CompilationUnit.sites_perm (arrangement : Arrangement) (unit : CompilationUnit) :
    (unit.sites arrangement).Perm (unit.sites .outerFirst) :=
  List.Perm.flatMap_left _ fun part _ => part.1.toMember.sites_perm arrangement _ _

/-- What comes of the parts of a list alone does not depend on their indices. -/
theorem flatMap_zipIdx {α β : Type} (parts : List α) (inner : α → List β) :
    (parts.zipIdx.flatMap fun part => inner part.1) = parts.flatMap inner := by
  rw [← List.flatMap_map, List.zipIdx_map_fst]

/-- With outer classes first, the sites of a member have its positions in their order. -/
theorem Member.map_position_sites (member : Member) (place : Place)
    (enclosing : List ClassDeclaration) :
    (member.sites .outerFirst place enclosing).map Site.position = member.positions enclosing := by
  induction member using Member.inductionOnMembers generalizing place enclosing with
  | field declaration => rw [Member.sites, Member.positions, List.map_nil]
  | method declaration => rw [Member.sites, Member.positions, List.map_nil]
  | nested header body inductionHypothesis =>
    rw [Member.sites_nested, Member.positions, Member.positionsAll_eq_flatMap,
      ← flatMap_zipIdx body]
    refine congrArg (_ :: ·) ?_
    rw [Site.inside, List.map_flatMap]
    exact List.flatMap_congr fun part indexed =>
      inductionHypothesis part.1 (List.fst_mem_of_mem_zipIdx indexed) _ _

/-- With outer classes first, the sites of a file have its positions in their order. -/
theorem CompilationUnit.map_position_sites (unit : CompilationUnit) :
    (unit.sites .outerFirst).map Site.position = unit.positions := by
  rw [CompilationUnit.sites, CompilationUnit.positions, ← flatMap_zipIdx unit.classes,
    List.map_flatMap]
  refine List.flatMap_congr fun part _ => ?_
  rw [Member.map_position_sites, ClassDeclaration.toMember, Member.positions,
    ClassDeclaration.positions]

/-- A member has the sites of the classes that a walk from it leads to, index by index. -/
theorem Member.mem_sites_iff (arrangement : Arrangement) (member : Member) (place : Place)
    (enclosing : List ClassDeclaration) (site : Site) :
    site ∈ member.sites arrangement place enclosing ↔
      ∃ inner, site.place = place ++ inner ∧
        (member.ownPosition? enclosing).bind (fun own => inner.foldlM ClassPosition.nested? own) =
          some site.position := by
  induction member using Member.inductionOnMembers generalizing place enclosing with
  | field declaration => simp [Member.sites, Member.ownPosition?]
  | method declaration => simp [Member.sites, Member.ownPosition?]
  | nested header body inductionHypothesis =>
    rw [Member.sites_nested, (arrangement.keeps _ _).mem_iff, List.mem_cons, Site.inside,
      List.mem_flatMap]
    simp only [Member.ownPosition?, Option.bind_some]
    constructor
    · rintro (rfl | ⟨⟨member, index⟩, indexed, deeper⟩)
      · exact ⟨[], (List.append_nil place).symm, rfl⟩
      · obtain ⟨inner, placed, found⟩ :=
          (inductionHypothesis member (List.fst_mem_of_mem_zipIdx indexed) _ _).mp deeper
        refine ⟨index :: inner, by rw [placed, List.append_assoc, List.singleton_append], ?_⟩
        rw [List.foldlM_cons, ClassPosition.nested?, List.mem_zipIdx_iff_getElem?.mp indexed]
        exact found
    · rintro ⟨_ | ⟨index, inner⟩, placed, found⟩
      · rw [List.append_nil] at placed
        have same : ⟨⟨header, body⟩, enclosing⟩ = site.position := Option.some.inj found
        left
        rw [← placed, same]
      · rw [List.foldlM_cons] at found
        obtain ⟨next, nested, deeper⟩ := Option.bind_eq_some_iff.mp found
        obtain ⟨member, listed, own⟩ := Option.bind_eq_some_iff.mp nested
        have indexed : (member, index) ∈ body.zipIdx := List.mem_zipIdx_iff_getElem?.mpr listed
        refine .inr ⟨(member, index), indexed, ?_⟩
        refine (inductionHypothesis member (List.fst_mem_of_mem_zipIdx indexed) _ _).mpr
          ⟨inner, ?_, Option.bind_eq_some_iff.mpr ⟨next, own, deeper⟩⟩
        rw [placed, List.append_assoc, List.singleton_append]

/-- A file has a site for each place at which a class is found. -/
theorem CompilationUnit.mem_sites_iff (arrangement : Arrangement) (unit : CompilationUnit)
    (site : Site) :
    site ∈ unit.sites arrangement ↔ unit.position? site.place = some site.position := by
  rw [CompilationUnit.sites, List.mem_flatMap]
  constructor
  · rintro ⟨⟨declaration, index⟩, indexed, inside⟩
    obtain ⟨inner, placed, found⟩ := (Member.mem_sites_iff ..).mp inside
    rw [placed, List.singleton_append, CompilationUnit.position?,
      List.mem_zipIdx_iff_getElem?.mp indexed]
    exact found
  · intro found
    rcases site with ⟨_ | ⟨index, inner⟩, position⟩
    · cases found
    · obtain ⟨declaration, listed, deeper⟩ := Option.bind_eq_some_iff.mp found
      exact ⟨(declaration, index), List.mem_zipIdx_iff_getElem?.mpr listed,
        (Member.mem_sites_iff ..).mpr ⟨inner, rfl, deeper⟩⟩

/-- Places are in the order of what is behind a common part. -/
theorem Place.nestedFirst_append (place inner others : Place) :
    Place.NestedFirst (place ++ inner) (place ++ others) ↔ Place.NestedFirst inner others := by
  induction place with
  | nil => rfl
  | cons index rest inductionHypothesis =>
    rw [List.cons_append, List.cons_append, Place.NestedFirst, inductionHypothesis]
    simp

/-- A place comes before the one that it is inside. -/
theorem Place.nestedFirst_inside (place : Place) (index : Nat) (inner : Place) :
    Place.NestedFirst (place ++ index :: inner) place := by
  have behind := Place.nestedFirst_append place (index :: inner) []
  rw [List.append_nil] at behind
  exact behind.mpr trivial

/-- No place comes before one that is the same or inside it. -/
theorem Place.not_nestedFirst_inside (place inner : Place) :
    ¬Place.NestedFirst place (place ++ inner) := by
  have same := Place.nestedFirst_append place [] inner
  rw [List.append_nil] at same
  exact fun before => same.mp before

/-- The parts of a list stand in the order of their indices. -/
theorem pairwise_zipIdx {α : Type} (parts : List α) :
    parts.zipIdx.Pairwise fun part other => part.2 < other.2 := by
  have ordered : (parts.zipIdx.map Prod.snd).Pairwise (· < ·) := by
    rw [List.zipIdx_map_snd]
    exact List.pairwise_lt_range'
  exact List.pairwise_map.mp ordered

/-- Sites are in order if those of each part of a class or file are. -/
theorem pairwise_flatMap_sites {α : Type} (parts : List α) (place : Place)
    (sites : α × Nat → List Site)
    (within : ∀ part, ∀ site ∈ sites part, ∃ inner, site.place = place ++ part.2 :: inner)
    (each : ∀ part ∈ parts.zipIdx,
      (sites part).Pairwise fun first next => first.place.NestedFirst next.place) :
    (parts.zipIdx.flatMap sites).Pairwise fun first next => first.place.NestedFirst next.place := by
  refine List.pairwise_flatMap.mpr ⟨each, (pairwise_zipIdx parts).imp ?_⟩
  intro part other earlier first found next later
  obtain ⟨inner, placed⟩ := within part first found
  obtain ⟨others, behind⟩ := within other next later
  rw [placed, behind, Place.nestedFirst_append]
  exact .inl earlier

/-- The sites of a member at an index are inside the place around it. -/
theorem Member.place_of_mem_sites (arrangement : Arrangement) (member : Member) (place : Place)
    (index : Nat) (enclosing : List ClassDeclaration) (site : Site)
    (found : site ∈ member.sites arrangement (place ++ [index]) enclosing) :
    ∃ inner, site.place = place ++ index :: inner := by
  obtain ⟨inner, placed, _⟩ := (Member.mem_sites_iff ..).mp found
  exact ⟨inner, by rw [placed, List.append_assoc, List.singleton_append]⟩

/-- With nested classes first, the sites of a member are in the order of their places. -/
theorem Member.pairwise_sites (member : Member) (place : Place)
    (enclosing : List ClassDeclaration) :
    (member.sites .nestedFirst place enclosing).Pairwise
      fun first next => first.place.NestedFirst next.place := by
  induction member using Member.inductionOnMembers generalizing place enclosing with
  | field declaration => simp [Member.sites]
  | method declaration => simp [Member.sites]
  | nested header body inductionHypothesis =>
    rw [Member.sites_nested]
    refine List.pairwise_append.mpr ⟨?_, List.pairwise_singleton .., ?_⟩
    · exact pairwise_flatMap_sites body place _
        (fun part site found => part.1.place_of_mem_sites _ _ _ _ site found)
        fun part indexed => inductionHypothesis part.1 (List.fst_mem_of_mem_zipIdx indexed) _ _
    · intro first nested own same
      obtain rfl := List.mem_singleton.mp same
      obtain ⟨part, _, found⟩ := List.mem_flatMap.mp nested
      obtain ⟨inner, placed⟩ := part.1.place_of_mem_sites _ _ _ _ first found
      rw [placed]
      exact Place.nestedFirst_inside ..

/-- With nested classes first, the sites of a file are in the order of their places. -/
theorem CompilationUnit.pairwise_sites (unit : CompilationUnit) :
    (unit.sites .nestedFirst).Pairwise fun first next => first.place.NestedFirst next.place :=
  pairwise_flatMap_sites unit.classes [] _
    (fun part site found => part.1.toMember.place_of_mem_sites _ [] _ _ site found)
    fun part _ => part.1.toMember.pairwise_sites _ _

example :
    let unit : CompilationUnit :=
      ⟨"A.java", none, [], [⟨default, [.nested default [.nested default []], .nested default []]⟩]⟩
    (unit.sites .nestedFirst).map Site.place = [[0, 0, 0], [0, 0], [0, 1], [0]] := by decide

/-- What a visitor answers at the places of a file, and the classes that this leaves there. -/
structure Walk where
  answer : Place → Option ClassDeclaration
  result : Place → ClassDeclaration

/-- A nested class is replaced by another class; fields and methods stay. -/
def Member.replacedBy (new : ClassDeclaration) : Member → Member
  | .field declaration => .field declaration
  | .method declaration => .method declaration
  | .nested _ _ => new.toMember

/-- The class at a site with each class directly nested in it replaced by the result at its
place. -/
def Site.given (site : Site) (result : Place → ClassDeclaration) : ClassDeclaration where
  header := site.position.declaration.header
  body := site.position.declaration.body.mapIdx fun index member =>
    member.replacedBy (result (site.place ++ [index]))

/-- Only the results at the places directly inside a site matter for what is given there. -/
theorem Site.given_congr (site : Site) (result other : Place → ClassDeclaration)
    (same : ∀ index, result (site.place ++ [index]) = other (site.place ++ [index])) :
    site.given result = site.given other := by
  simp only [Site.given, same]

section Visit

variable {ω σ ε : Type} {walk : Walk} {visit : Visitor (Work ω σ ε)}

/-- A walk leaves the class answered at a site, or else the class given there. -/
def Walk.Settles (walk : Walk) (site : Site) : Prop :=
  walk.result site.place = (walk.answer site.place).getD (site.given walk.result)

/-- A visitor is called at sites from first to last, each time with the class that the walk gives
there, until it fails or has answered everywhere as the walk says. The calls leave behind a state,
what they made known, and the failure if there was one. -/
inductive Walk.Calls (walk : Walk) (visit : Visitor (Work ω σ ε)) :
    List Site → σ → Done ω σ ε Unit → Prop where
  | done (before : σ) : walk.Calls visit [] before ⟨before, [], .ok ()⟩
  | answered {site : Site} {rest : List Site} {before middle : σ} {known : List ω}
      {ending : Done ω σ ε Unit}
      (called : visit site.position (site.given walk.result) before =
        ⟨middle, known, .ok (walk.answer site.place)⟩)
      (later : walk.Calls visit rest middle ending) :
      walk.Calls visit (site :: rest) before (ending.after known)
  | failed {site : Site} {rest : List Site} {before after : σ} {known : List ω} {failure : ε}
      (called : visit site.position (site.given walk.result) before =
        ⟨after, known, .error failure⟩) :
      walk.Calls visit (site :: rest) before ⟨after, known, .error failure⟩

/-- An answer turns something old into something new, and is none if the calls at the sites left
everything as given. -/
structure Walk.Yields {α : Type} (walk : Walk) (sites : List Site) (old new : α)
    (answer : Option α) : Prop where
  value : answer.getD old = new
  untouched : (∀ site ∈ sites, walk.answer site.place = none) → answer = none

/-- The walk with an answer at a site, and with what the answer leaves there. -/
def Walk.record (walk : Walk) (site : Site) (answer : Option ClassDeclaration) : Walk where
  answer := Function.update walk.answer site.place answer
  result := Function.update walk.result site.place (answer.getD (site.given walk.result))

/-- A walk tells the same as the one at the start, but for the places of some sites. -/
def Walk.SameBut (start walk : Walk) (sites : List Site) : Prop :=
  ∀ place, (∀ site ∈ sites, site.place ≠ place) →
    walk.answer place = start.answer place ∧ walk.result place = start.result place

/-- What is recorded at a site stays, as later sites are neither at its place nor inside it. -/
theorem Walk.record_stays {start : Walk} {site : Site} {answer : Option ClassDeclaration}
    {rest : List Site} (ahead : ∀ later ∈ rest, site.place.NestedFirst later.place)
    (kept : (start.record site answer).SameBut walk rest) :
    walk.Settles site ∧ walk.answer site.place = answer ∧
      site.given walk.result = site.given start.result ∧ start.SameBut walk (site :: rest) := by
  have outside : ∀ inner, ∀ later ∈ rest, later.place ≠ site.place ++ inner := by
    intro inner later found same
    exact Place.not_nestedFirst_inside site.place inner (same ▸ ahead later found)
  have around : site.given walk.result = site.given start.result := by
    refine Site.given_congr site _ _ fun index => ?_
    rw [(kept _ (outside [index])).2, record]
    exact Function.update_of_ne (by simp) ..
  obtain ⟨answered, left⟩ := kept site.place fun later found same =>
    outside [] later found (by rw [same, List.append_nil])
  have recorded : walk.answer site.place = answer := by
    rw [answered, record]
    exact Function.update_self ..
  refine ⟨?_, recorded, around, ?_⟩
  · rw [Settles, recorded, around, left, record]
    exact Function.update_self ..
  · intro place elsewhere
    rw [List.forall_mem_cons] at elsewhere
    obtain ⟨here, later⟩ := elsewhere
    obtain ⟨sameAnswer, sameResult⟩ := kept place later
    rw [sameAnswer, sameResult, record]
    exact ⟨Function.update_of_ne (Ne.symm here) .., Function.update_of_ne (Ne.symm here) ..⟩

/-- For sites in order, some walk tells how a visitor is called there.

The induction is on the sites. What a walk gives at a site rests on results inside it only, and
later sites are not there; so the walk found for these may start from the answer at the site. Where
the visitor fails, the rest of the walk is still to be found, though no call follows it. -/
theorem Walk.exists_calls (visit : Visitor (Work ω σ ε)) (sites : List Site)
    (ordered : sites.Pairwise fun first next => first.place.NestedFirst next.place)
    (before : σ) (start : Walk) :
    ∃ walk : Walk, ∃ ending : Done ω σ ε Unit, (∀ site ∈ sites, walk.Settles site) ∧
      walk.Calls visit sites before ending ∧ start.SameBut walk sites := by
  induction sites generalizing before start with
  | nil => exact ⟨start, _, by simp, .done before, fun _ _ => ⟨rfl, rfl⟩⟩
  | cons site rest inductionHypothesis =>
    obtain ⟨ahead, others⟩ := List.pairwise_cons.mp ordered
    rcases ended : visit site.position (site.given start.result) before with
      ⟨middle, known, failure | answer⟩
    · obtain ⟨walk, _, settled, _, kept⟩ :=
        inductionHypothesis others before (start.record site none)
      obtain ⟨here, _, same, whole⟩ := Walk.record_stays ahead kept
      rw [← same] at ended
      exact ⟨walk, _, List.forall_mem_cons.mpr ⟨here, settled⟩, .failed ended, whole⟩
    · obtain ⟨walk, ending, settled, called, kept⟩ :=
        inductionHypothesis others middle (start.record site answer)
      obtain ⟨here, answered, same, whole⟩ := Walk.record_stays ahead kept
      rw [← answered, ← same] at ended
      exact ⟨walk, _, List.forall_mem_cons.mpr ⟨here, settled⟩, .answered ended called, whole⟩

/-- Calls at some sites and then at others are made up to a failure at the former, or else go on
at the latter. -/
theorem Walk.Calls.split {front back : List Site} {before : σ} {ending : Done ω σ ε Unit}
    (called : walk.Calls visit (front ++ back) before ending) :
    (∃ after known failure, ending = ⟨after, known, .error failure⟩ ∧
      walk.Calls visit front before ending) ∨
    ∃ middle known final, ending = final.after known ∧
      walk.Calls visit front before ⟨middle, known, .ok ()⟩ ∧
      walk.Calls visit back middle final := by
  induction front generalizing before ending with
  | nil => exact .inr ⟨before, [], ending, rfl, .done before, called⟩
  | cons site others inductionHypothesis =>
    cases called with
    | failed first => exact .inl ⟨_, _, _, rfl, .failed first⟩
    | @answered _ _ _ _ known _ first later =>
      rcases inductionHypothesis later with
        ⟨after, further, failure, rfl, failed⟩ | ⟨middle, further, final, rfl, between, behind⟩
      · exact .inl ⟨after, known ++ further, failure, rfl, .answered first failed⟩
      · refine .inr ⟨middle, known ++ further, final, ?_, .answered first between, behind⟩
        simp only [Done.after, List.append_assoc]

/-- Calls at some sites and then at others go with work and then other work, if the former go with
the one and the latter with the other. -/
theorem Walk.Calls.endsAs_bind {α β : Type} {front back : List Site} {before : σ}
    {ending : Done ω σ ε Unit} {first : Work ω σ ε α} {next : α → Work ω σ ε β} {good : α → Prop}
    {better : β → Prop} (called : walk.Calls visit (front ++ back) before ending)
    (begun : ∀ ending, walk.Calls visit front before ending → first.EndsAs before ending good)
    (rest : ∀ middle ending value, good value → walk.Calls visit back middle ending →
      (next value).EndsAs middle ending better) :
    (first >>= next).EndsAs before ending better := by
  rcases called.split with
    ⟨after, known, failure, rfl, failed⟩ | ⟨middle, known, final, rfl, answered, later⟩
  · exact Work.endsAs_bind_of_fails (begun _ failed)
  · exact Work.endsAs_bind (begun _ answered) fun value fits => rest middle final value fits later

/-- Work on the parts of a list is work on the first part and then on the others. -/
theorem replaceEach_cons {α : Type} (work : α → Work ω σ ε (Option α)) (part : α)
    (rest : List α) :
    replaceEach work (part :: rest) =
      (work part >>= fun replacement => replaceEach work rest >>= fun others =>
        pure ((part, replacement) :: others)) := by
  simp only [replaceEach, Work.forEach, bind_assoc, pure_bind]

/-- A list is replaced part by part. -/
theorem Walk.Yields.cons {α : Type} {here others : List Site} {part new : α} {rest news : List α}
    {replacement : Option α} {replaced : List (α × Option α)}
    (head : walk.Yields here part new replacement)
    (tail : walk.Yields others rest news (replaceParts replaced))
    (parts : replaced.map Prod.fst = rest) :
    walk.Yields (here ++ others) (part :: rest) (new :: news)
      (replaceParts ((part, replacement) :: replaced)) := by
  subst parts
  constructor
  · have whole := replaceParts_exact ((part, replacement) :: replaced)
    rw [List.map_cons, List.map_cons, ← replaceParts_exact replaced, tail.value,
      head.value] at whole
    exact whole
  · intro left
    rw [List.forall_mem_append] at left
    simp only [replaceParts, head.untouched left.1, tail.untouched left.2]

/-- Parts of a list are replaced by calls if each of them is. -/
theorem Walk.Calls.endsAs_replaceEach {α : Type} {parts : List α}
    {work : α → Work ω σ ε (Option α)} {sites : α × Nat → List Site} {index : Nat} {before : σ}
    {ending : Done ω σ ε Unit} (new : α × Nat → α)
    (called : walk.Calls visit ((parts.zipIdx index).flatMap sites) before ending)
    (each : ∀ part ∈ parts.zipIdx index, ∀ before ending,
      walk.Calls visit (sites part) before ending →
        (work part.1).EndsAs before ending (walk.Yields (sites part) part.1 (new part))) :
    (replaceEach work parts).EndsAs before ending fun replaced =>
      replaced.map Prod.fst = parts ∧
        walk.Yields ((parts.zipIdx index).flatMap sites) parts ((parts.zipIdx index).map new)
          (replaceParts replaced) := by
  induction parts generalizing index before ending with
  | nil =>
    cases called
    exact Work.endsAs_pure [] before ⟨rfl, rfl, fun _ => rfl⟩
  | cons part rest inductionHypothesis =>
    rw [List.zipIdx_cons, List.forall_mem_cons] at each
    rw [List.zipIdx_cons, List.flatMap_cons] at called ⊢
    rw [replaceEach_cons]
    refine called.endsAs_bind (each.1 before) fun middle ending replacement head later => ?_
    refine Work.endsAs_bind_pure (inductionHypothesis later each.2) fun replaced tail => ?_
    exact ⟨congrArg (part :: ·) tail.1, head.cons tail.2 tail.1⟩

/-- Once the nested classes of a class are replaced, the call at its site leaves the result
there. -/
theorem Walk.Calls.endsAs_conclude {α : Type} {site : Site} {inside : List Site}
    {replaced : List (Member × Option Member)} {wrap : ClassDeclaration → α} {before : σ}
    {ending : Done ω σ ε Unit} (called : walk.Calls visit [site] before ending)
    (settled : walk.Settles site)
    (inner : walk.Yields inside site.position.declaration.body (site.given walk.result).body
      (replaceParts replaced)) :
    (visit.conclude site.position replaced wrap).EndsAs before ending
      (walk.Yields (inside ++ [site]) (wrap site.position.declaration)
        (wrap (walk.result site.place))) := by
  have current : (⟨site.position.declaration.header,
      (replaceParts replaced).getD site.position.declaration.body⟩ : ClassDeclaration) =
        site.given walk.result := by
    rw [inner.value]
    rfl
  rw [Visitor.conclude, current]
  cases called with
  | failed fails => exact Work.endsAs_bind_of_fails fails
  | answered ended later =>
    cases later
    refine Work.endsAs_bind ⟨_, ended, rfl⟩ ?_
    rintro _ rfl
    rw [Walk.Settles] at settled
    cases answered : walk.answer site.place with
    | some new =>
      rw [answered] at settled
      refine Work.endsAs_pure _ _ ⟨congrArg wrap settled.symm, fun left => ?_⟩
      rw [left site (List.mem_append_right _ List.mem_cons_self)] at answered
      cases answered
    | none =>
      rw [answered] at settled
      cases outcome : replaceParts replaced with
      | some others =>
        refine Work.endsAs_pure _ _ ⟨congrArg wrap settled.symm, fun left => ?_⟩
        rw [inner.untouched fun nested found => left nested (List.mem_append_left _ found)]
          at outcome
        cases outcome
      | none =>
        rw [outcome] at current
        exact Work.endsAs_pure _ _ ⟨congrArg wrap (current.trans settled.symm), fun _ => rfl⟩

/-- The calls at the sites of a class, whether nested or not, leave the result at its place if the
calls at those of each member do. -/
theorem Walk.Calls.endsAs_class {α : Type} {before : σ} {ending : Done ω σ ε Unit} (site : Site)
    (wrap : ClassDeclaration → α)
    (called : walk.Calls visit (site.inside .nestedFirst ++ [site]) before ending)
    (settled : walk.Settles site)
    (members : ∀ part ∈ site.position.declaration.body.zipIdx, ∀ before ending,
      walk.Calls visit (part.1.sites .nestedFirst (site.place ++ [part.2]) site.position.chain)
        before ending →
      (part.1.rebuild visit site.position.chain).EndsAs before ending
        (walk.Yields (part.1.sites .nestedFirst (site.place ++ [part.2]) site.position.chain)
          part.1 (part.1.replacedBy (walk.result (site.place ++ [part.2]))))) :
    (replaceEach (Member.rebuild visit site.position.chain) site.position.declaration.body >>=
      fun replaced => visit.conclude site.position replaced wrap).EndsAs before ending
        (walk.Yields (site.inside .nestedFirst ++ [site]) (wrap site.position.declaration)
          (wrap (walk.result site.place))) := by
  refine called.endsAs_bind (fun ending inner => inner.endsAs_replaceEach _ members) ?_
  rintro middle ending replaced ⟨_, inner⟩ own
  refine own.endsAs_conclude settled ?_
  rw [Site.given, List.mapIdx_eq_zipIdx_map]
  exact inner

/-- The calls at the sites of a member leave the result at its place, if the member is a class. -/
theorem Walk.Calls.endsAs_member {member : Member} {place : Place}
    {enclosing : List ClassDeclaration} {before : σ} {ending : Done ω σ ε Unit}
    (called : walk.Calls visit (member.sites .nestedFirst place enclosing) before ending)
    (settled : ∀ site ∈ member.sites .nestedFirst place enclosing, walk.Settles site) :
    (member.rebuild visit enclosing).EndsAs before ending
      (walk.Yields (member.sites .nestedFirst place enclosing) member
        (member.replacedBy (walk.result place))) := by
  induction member using Member.inductionOnMembers
    generalizing place enclosing before ending with
  | field declaration =>
    rw [Member.sites] at called
    cases called
    exact Work.endsAs_pure none before ⟨rfl, fun _ => rfl⟩
  | method declaration =>
    rw [Member.sites] at called
    cases called
    exact Work.endsAs_pure none before ⟨rfl, fun _ => rfl⟩
  | nested header body inductionHypothesis =>
    rw [Member.sites_nested] at called settled ⊢
    obtain ⟨inner, own⟩ := List.forall_mem_append.mp settled
    rw [Member.rebuild_nested]
    refine called.endsAs_class ⟨place, ⟨⟨header, body⟩, enclosing⟩⟩ _
      (own _ List.mem_cons_self) fun part indexed before ending each => ?_
    refine inductionHypothesis part.1 (List.fst_mem_of_mem_zipIdx indexed) each
      fun site found => ?_
    exact inner site (List.mem_flatMap.mpr ⟨part, indexed, found⟩)

/-- The calls at the sites of a class that stands alone leave the result at its place. -/
theorem Walk.Calls.endsAs_alone {declaration : ClassDeclaration} {place : Place} {before : σ}
    {ending : Done ω σ ε Unit}
    (called : walk.Calls visit (declaration.toMember.sites .nestedFirst place []) before ending)
    (settled : ∀ site ∈ declaration.toMember.sites .nestedFirst place [], walk.Settles site) :
    (declaration.rebuild visit).EndsAs before ending
      (walk.Yields (declaration.toMember.sites .nestedFirst place []) declaration
        (walk.result place)) := by
  rw [ClassDeclaration.toMember, Member.sites_nested] at called settled ⊢
  obtain ⟨inner, own⟩ := List.forall_mem_append.mp settled
  rw [ClassDeclaration.rebuild_eq]
  refine called.endsAs_class ⟨place, ⟨declaration, []⟩⟩ id
    (own _ List.mem_cons_self) fun part indexed before ending each => ?_
  refine each.endsAs_member fun site found => ?_
  exact inner site (List.mem_flatMap.mpr ⟨part, indexed, found⟩)

/-- The calls at the sites of a file leave the results at the places of its own classes. -/
theorem Walk.Calls.endsAs_file {unit : CompilationUnit} {before : σ} {ending : Done ω σ ε Unit}
    (called : walk.Calls visit (unit.sites .nestedFirst) before ending)
    (settled : ∀ site ∈ unit.sites .nestedFirst, walk.Settles site) :
    (unit.rebuild visit).EndsAs before ending
      (walk.Yields (unit.sites .nestedFirst) unit
        { unit with classes := unit.classes.mapIdx fun index _ => walk.result [index] }) := by
  rw [CompilationUnit.rebuild, ClassDeclaration.rebuildAll_eq]
  refine Work.endsAs_bind_pure
    (called.endsAs_replaceEach (fun part => walk.result [part.2]) ?_) ?_
  · intro part indexed before ending each
    exact each.endsAs_alone fun site found =>
      settled site (List.mem_flatMap.mpr ⟨part, indexed, found⟩)
  · rintro replaced ⟨_, classes⟩
    rw [List.mapIdx_eq_zipIdx_map, ← classes.value]
    refine ⟨?_, fun left => by rw [classes.untouched left]; rfl⟩
    cases replaceParts replaced <;> rfl

/-- Rebuilding a file calls the visitor once at each class position of the file, nested classes
first, and each time with the class there, in which the nested classes are replaced by what their
own calls left. The file comes out with its classes replaced likewise, and as it was if all calls
left what they were given. The visitor may do anything to a state, such as keep a record of its
calls, and its answers may depend on the state. What the calls leave behind, the rebuilding does;
so it fails only where the visitor fails. -/
theorem classes_visited_once (visit : Visitor (Work ω σ ε)) (unit : CompilationUnit)
    (before : σ) :
    (unit.sites .outerFirst).map Site.position = unit.positions ∧
      (∀ site, site ∈ unit.sites .outerFirst ↔ unit.position? site.place = some site.position) ∧
      (unit.sites .nestedFirst).Perm (unit.sites .outerFirst) ∧
      ((unit.sites .nestedFirst).Pairwise fun first next => first.place.NestedFirst next.place) ∧
      ∃ walk : Walk, ∃ ending : Done ω σ ε Unit,
        (∀ site ∈ unit.sites .nestedFirst, walk.Settles site) ∧
        walk.Calls visit (unit.sites .nestedFirst) before ending ∧
        (unit.rebuild visit).EndsAs before ending
          (walk.Yields (unit.sites .nestedFirst) unit
            { unit with classes := unit.classes.mapIdx fun index _ => walk.result [index] }) := by
  obtain ⟨walk, ending, settled, called, _⟩ :=
    Walk.exists_calls visit (unit.sites .nestedFirst) unit.pairwise_sites before
      ⟨fun _ => none, fun _ => default⟩
  exact ⟨unit.map_position_sites, unit.mem_sites_iff .outerFirst, unit.sites_perm .nestedFirst,
    unit.pairwise_sites, walk, ending, settled, called, called.endsAs_file settled⟩

end Visit

end Java

end TypedDefaults
