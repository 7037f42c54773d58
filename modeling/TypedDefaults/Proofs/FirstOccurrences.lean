import TypedDefaults.Proofs.Isolation
import TypedDefaults.Proofs.NamesApart

/-!
# Fields in the outermost class that needs them

The first occurrence that seeks an entry decides the class of the field. The
members of a class are scanned before the classes inside it, wherever these are
written among the members. So no class around that of the field seeks the entry
as well, and every occurrence that does so from inside reaches the field by its
bare name.
-/

namespace TypedDefaults

open Java

/-- The occurrence has a key under which the entry of the given key is found. -/
def Occurrence.Seeks (configuration : Configuration) (occurrence : Occurrence) (key : Key) : Prop :=
  ∃ own anchor, occurrence.Keyed configuration own anchor ∧ own.identity = key.identity

/-- The entry that a scan has stored under a key was made for the first occurrence that seeks it,
with the names given out to those before it. -/
structure Entry.MadeFirst (configuration : Configuration) (seen : List Occurrence) (key : Key)
    (entry : Entry) (before : List Occurrence) (first : Occurrence) (anchor : Anchor) : Prop where
  split : ∃ later, seen = before ++ first :: later
  keyed : first.Keyed configuration key anchor
  made : entry =
    ((before.foldl (ScanState.scan configuration) (.starting .empty)).entryFor first first.kind
      anchor).1
  earliest : ∀ earlier ∈ before, ¬earlier.Seeks configuration key

/-- Every entry of a scan was made for the first occurrence that seeks it. -/
theorem Entry.made_first (configuration : Configuration) (seen : List Occurrence) (key : Key)
    (entry : Entry)
    (stored : (key, entry) ∈
      (seen.foldl (ScanState.scan configuration) (.starting .empty)).store.entries) :
    ∃ before first anchor,
      entry.MadeFirst configuration seen key before first anchor := by
  induction seen using List.reverseRecOn with
  | nil => simp [ScanState.starting, Store.empty] at stored
  | append_singleton seen occurrence inductionHypothesis =>
    have kept : (key, entry) ∈
        (seen.foldl (ScanState.scan configuration) (.starting .empty)).store.entries →
        ∃ before first anchor,
          entry.MadeFirst configuration (seen ++ [occurrence]) key before first anchor := by
      intro storedBefore
      obtain ⟨before, first, anchor, made⟩ := inductionHypothesis storedBefore
      obtain ⟨later, split⟩ := made.split
      exact ⟨before, first, anchor, ⟨later ++ [occurrence], by simp [split]⟩, made.keyed, made.made,
        made.earliest⟩
    have records := ScanState.records_foldl configuration seen
    rw [List.foldl_append, List.foldl_cons, List.foldl_nil] at stored
    rcases ScanState.scan_cases configuration _ occurrence with
      ⟨same, _⟩ | ⟨own, anchor, keyed, free, next⟩
    · rw [same] at stored
      exact kept stored
    · rw [next] at stored
      rcases List.mem_append.mp stored with old | new
      · exact kept old
      · obtain ⟨rfl, rfl⟩ := Prod.mk.inj (List.mem_singleton.mp new)
        refine ⟨seen, occurrence, anchor, ⟨[], rfl⟩, keyed, rfl, ?_⟩
        rintro earlier inside ⟨other, otherAnchor, otherKeyed, same⟩
        obtain ⟨found, answered⟩ :=
          records.complete earlier inside other otherAnchor otherKeyed
        rw [Store.get?_congr _ same, free] at answered
        cases answered

/-- Where files have paths of their own, the first occurrence of the batch is the first of its
file. -/
theorem Entry.MadeFirst.in_file {configuration : Configuration} {units : List CompilationUnit}
    {key : Key} {entry : Entry} {before : List Occurrence} {first : Occurrence} {anchor : Anchor}
    (made : entry.MadeFirst configuration (Occurrence.ofBatch configuration units) key before first
      anchor)
    (paths : (units.map CompilationUnit.sourcePath).Nodup) :
    ∃ unit ∈ units, unit.sourcePath = key.file ∧ ∃ ahead later,
      Occurrence.ofUnit configuration unit = ahead ++ first :: later ∧ ahead ⊆ before := by
  obtain ⟨later, split⟩ := made.split
  have seen : first ∈ Occurrence.ofBatch configuration units := by
    rw [split]
    exact List.mem_append_right _ List.mem_cons_self
  obtain ⟨unit, listed, here⟩ := List.mem_flatMap.mp seen
  have file := (Occurrence.file_of_mem_ofUnit here).1
  refine ⟨unit, listed, by rw [made.keyed.file, file],
    before.filter fun other => other.file = unit.sourcePath,
    later.filter fun other => other.file = unit.sourcePath, ?_, List.filter_subset_self _⟩
  have alone := filter_of_nodup_map CompilationUnit.sourcePath units unit paths listed
  have filtered := Occurrence.filter_ofBatch configuration units unit.sourcePath
  rw [alone, split, List.filter_append, List.filter_cons_of_pos (by simp [file])] at filtered
  rw [filtered, Occurrence.ofBatch, List.flatMap_singleton]

/-- The occurrences of a class come before those of the classes inside it, at any depth. -/
theorem Occurrence.outer_first (configuration : Configuration) (unit : CompilationUnit)
    (outer inner : ClassPosition) (placed : inner ∈ unit.positions)
    (inside : outer.chain <:+ inner.enclosing) :
    ∃ between, ofClass configuration unit.sourcePath outer ++ between ++
      ofClass configuration unit.sourcePath inner <:+: ofUnit configuration unit := by
  obtain ⟨between, before, after, split⟩ := unit.outer_first outer inner placed inside
  refine ⟨between.flatMap (ofClass configuration unit.sourcePath),
    before.flatMap (ofClass configuration unit.sourcePath),
    after.flatMap (ofClass configuration unit.sourcePath), ?_⟩
  rw [ofUnit, ← split]
  simp

/-- An occurrence of a file is one of the class that it stands in. -/
theorem Occurrence.mem_ofClass {configuration : Configuration} {unit : CompilationUnit}
    {occurrence : Occurrence} (found : occurrence ∈ ofUnit configuration unit) :
    occurrence ∈ ofClass configuration unit.sourcePath occurrence.position := by
  obtain ⟨position, _, member, declared, inside⟩ := (mem_ofUnit_iff ..).mp found
  obtain ⟨_, rfl, _⟩ := mem_ofAnnotations _ _ _ _ _ _ _ inside
  exact List.mem_flatMap.mpr ⟨member, declared, inside⟩

/-- What a list begins with is ahead of an element that it does not have. -/
theorem subset_ahead {α : Type} {ahead later front back : List α} {first : α}
    (split : ahead ++ first :: later = front ++ back) (absent : first ∉ front) :
    front ⊆ ahead := by
  rcases List.append_eq_append_iff.mp split with ⟨more, rfl, rest⟩ | ⟨more, rfl, _⟩
  · cases more with
    | nil => simp
    | cons next others =>
      obtain ⟨rfl, _⟩ := List.cons.inj rest
      exact absurd (List.mem_append_right _ List.mem_cons_self) absent
  · exact List.subset_append_left _ _

/-- In a file whose classes are named apart, the occurrences of the classes around one that has an
occurrence are ahead of it. -/
theorem Occurrence.mem_ahead {configuration : Configuration} {unit : CompilationUnit}
    (named : unit.NamedApart) {ahead later : List Occurrence} {first other : Occurrence}
    (split : ofUnit configuration unit = ahead ++ first :: later)
    (found : other ∈ ofUnit configuration unit)
    (around : other.position.chain <:+ first.position.enclosing) : other ∈ ahead := by
  have here : first ∈ ofUnit configuration unit := by
    rw [split]
    exact List.mem_append_right _ List.mem_cons_self
  obtain ⟨between, before, after, order⟩ :=
    unit.outer_first _ _ (file_of_mem_ofUnit here).2 around
  have distinct : unit.positions.Nodup := List.Nodup.of_map _ named
  rw [← order, List.append_assoc, List.append_assoc, ← List.append_assoc] at distinct
  have front : ofUnit configuration unit =
      (before ++ other.position :: between).flatMap (ofClass configuration unit.sourcePath) ++
        (first.position :: after).flatMap (ofClass configuration unit.sourcePath) := by
    rw [ofUnit, ← order, ← List.flatMap_append]
    simp
  refine subset_ahead (split.symm.trans front) ?_ (List.mem_flatMap.mpr
    ⟨other.position, by simp, mem_ofClass found⟩)
  intro inFront
  obtain ⟨position, among, inClass⟩ := List.mem_flatMap.mp inFront
  obtain ⟨member, _, inside⟩ := List.mem_flatMap.mp inClass
  obtain ⟨_, rfl, _⟩ := mem_ofAnnotations _ _ _ _ _ _ _ inside
  exact (List.nodup_append.mp distinct).2.2 _ among _ List.mem_cons_self rfl

/-- What a scan has stored under a key is found there. -/
theorem get?_of_stored {configuration : Configuration} {seen : List Occurrence} {key : Key}
    {entry : Entry}
    (stored : (key, entry) ∈
      (seen.foldl (ScanState.scan configuration) (.starting .empty)).store.entries) :
    (seen.foldl (ScanState.scan configuration) (.starting .empty)).store.get? key =
      some entry := by
  induction seen using List.reverseRecOn with
  | nil => simp [ScanState.starting, Store.empty] at stored
  | append_singleton seen occurrence inductionHypothesis =>
    rw [List.foldl_append, List.foldl_cons, List.foldl_nil] at stored ⊢
    rcases ScanState.scan_cases configuration _ occurrence with
      ⟨same, _⟩ | ⟨own, anchor, _, free, next⟩
    · rw [same] at stored ⊢
      exact inductionHypothesis stored
    · rw [next] at stored ⊢
      rcases List.mem_append.mp stored with old | new
      · exact Store.get?_insert _ _ _ _ _ (inductionHypothesis old)
      · obtain ⟨rfl, rfl⟩ := Prod.mk.inj (List.mem_singleton.mp new)
        exact Store.get?_insert_self _ _ _ free

/-- A companion that is made for an occurrence with a key takes the reference to the field of the
entry under the key. -/
theorem Occurrence.Keyed.companion_refers {configuration : Configuration} {store : Store}
    {found : Occurrence} {key : Key} {anchor : Anchor} {entry : Entry} {use : AnnotationUse}
    (keyed : found.Keyed configuration key anchor) (answered : store.get? key = some entry)
    (companion : found.companion? configuration store = some use) :
    use.arguments = some [entry.reference (some found.scope)] := by
  obtain ⟨value, arguments, cases⟩ :=
    found.companion?_cases configuration store use keyed.no_string companion
  rw [arguments]
  rcases cases with ⟨_, analysed, inPlace⟩ | ⟨_, _, _, again, found, rfl⟩
  · exact absurd ((keyed.outcome analysed).symm.trans inPlace) (by simp)
  · obtain ⟨rfl, rfl⟩ := keyed.unique again
    obtain rfl := Option.some.inj (answered.symm.trans found)
    rfl

/-- An entry has its field in the class of the first occurrence of the file that seeks it, and no
occurrence in a class around that one seeks it too. -/
structure Entry.Outermost (configuration : Configuration) (unit : CompilationUnit) (key : Key)
    (entry : Entry) (first : Occurrence) : Prop where
  sought : first.Seeks configuration key
  earliest : ∃ ahead later, Occurrence.ofUnit configuration unit = ahead ++ first :: later ∧
    ∀ earlier ∈ ahead, ¬earlier.Seeks configuration key
  scope : entry.scope = first.scope
  outside : ∀ other ∈ Occurrence.ofUnit configuration unit, other.Seeks configuration key →
    ¬other.position.chain <:+ first.position.enclosing

/-- Where files have paths of their own and classes their names, the entry under a key is for the
class of the first occurrence that seeks it, with none in a class around that one. -/
theorem Entry.outermost {configuration : Configuration} {units : List CompilationUnit} {key : Key}
    {entry : Entry} (paths : (units.map CompilationUnit.sourcePath).Nodup)
    (named : ∀ unit ∈ units, unit.NamedApart)
    (stored : (key, entry) ∈ (scanned configuration units).store.entries) :
    ∃ unit ∈ units, ∃ first anchor, unit.sourcePath = key.file ∧
      entry.Kept configuration units unit first key anchor ∧
      entry.Outermost configuration unit key first := by
  obtain ⟨before, first, anchor, made⟩ := Entry.made_first configuration _ key entry stored
  obtain ⟨unit, listed, file, ahead, later, split, among⟩ := made.in_file paths
  have here : first ∈ Occurrence.ofUnit configuration unit := by
    rw [split]
    exact List.mem_append_right _ List.mem_cons_self
  have madeFor : entry.MadeFor configuration first key anchor := by
    rw [made.made]
    exact ScanState.entryFor_made configuration _ first key anchor made.keyed
  refine ⟨unit, listed, first, anchor, file, ⟨stored, here, madeFor⟩, ?_⟩
  exact {
    sought := ⟨key, anchor, made.keyed, rfl⟩
    earliest := ⟨ahead, later, split, fun earlier inside => made.earliest earlier (among inside)⟩
    scope := madeFor.scope
    outside := fun other found seeks around => made.earliest other
      (among (Occurrence.mem_ahead (named unit listed) split found around)) seeks }

/-- Where files have paths of their own and classes are named apart and nested as their types are,
every entry of a run is for the class of the first occurrence that seeks it, in an order that visits
the members of a class before the classes inside it. That class gets the field; no class around it
seeks the entry; and a companion that is added in the class or inside it for an occurrence that
seeks the entry has the bare name of the field as its argument. -/
theorem fields_land_outermost (configuration : Configuration) (units : List CompilationUnit)
    (report : RunReport) (paths : (units.map CompilationUnit.sourcePath).Nodup)
    (named : ∀ unit ∈ units, unit.NamedApart) (nested : ∀ unit ∈ units, unit.WellNested)
    (returned : (run configuration units ()).outcome = .ok report) :
    (∀ unit ∈ units, ∀ outer inner, inner ∈ unit.positions → outer.chain <:+ inner.enclosing →
      ∃ between, Occurrence.ofClass configuration unit.sourcePath outer ++ between ++
        Occurrence.ofClass configuration unit.sourcePath inner <:+:
          Occurrence.ofUnit configuration unit) ∧
    ∀ key entry,
      (key, entry) ∈ (Scan.batch configuration units (.starting .empty)).state.store.entries →
      ∃ unit ∈ units, ∃ first, unit.sourcePath = key.file ∧
        entry.Outermost configuration unit key first ∧
        (∃ output place field,
          Synthesized units report unit output first.position place field ∧
            field.name = entry.fieldName ∧ entry.field unit.imports = .ok field) ∧
        ∀ output position place member result,
          Counterpart units report unit output position place member result →
          first.position.chain <:+ position.chain →
          ∀ use ∈ result.annotations,
            (∀ old ∈ member.annotations, old.type.qualifiedName ≠ use.type.qualifiedName) →
            (∃ found ∈ Occurrence.ofMember configuration unit.sourcePath position member,
              found.companion? configuration (scanned configuration units).store = some use) ∧
            ∀ found ∈ Occurrence.ofMember configuration unit.sourcePath position member,
              found.companion? configuration (scanned configuration units).store = some use →
              found.Seeks configuration key →
              use.arguments = some [.identifier entry.fieldIdentifier] := by
  refine ⟨fun unit _ outer inner placed inside =>
    Occurrence.outer_first configuration unit outer inner placed inside, ?_⟩
  rw [scan_state returned]
  intro key entry stored
  obtain ⟨unit, listed, first, anchor, file, kept, outermost⟩ := Entry.outermost paths named stored
  obtain ⟨output, place, field, synthesized, _, name, filled⟩ := kept.synthesized listed returned
  refine ⟨unit, listed, first, file, outermost,
    ⟨output, place, field, synthesized, name, filled⟩, ?_⟩
  intro output position place member result counterpart inside use among added
  rw [counterpart.annotations_exact returned] at among
  refine ⟨Relocation.companion_of_added _ _ _ _ _ use among added, ?_⟩
  rintro found ofMember companion ⟨own, ownAnchor, keyed, same⟩
  have answered : (scanned configuration units).store.get? own = some entry := by
    rw [Store.get?_congr _ same]
    exact get?_of_stored stored
  obtain ⟨_, atPosition, _⟩ := Occurrence.mem_ofAnnotations _ _ _ _ _ _ _ ofMember
  have placed : position ∈ unit.positions := (List.of_mem_zip counterpart.classes).1
  have bare : entry.reference (some position.type) = .identifier entry.fieldIdentifier := by
    rw [entry.reference_bare_iff (nested unit listed) position placed, outermost.scope]
    exact ⟨_, inside.subset List.mem_cons_self, rfl⟩
  rw [keyed.companion_refers answered companion, Occurrence.scope, atPosition, bare]

/-- A class with a list of constants, written behind a class inside it that has a set of the
same. -/
def behindNestedClass : CompilationUnit :=
  let constant := constantBehind "A" (some (.topLevel "p.A"))
  singleClass
    [.nested ⟨"N", ⟨"p.M.N", ["p.M"]⟩, [], []⟩
      [annotatedField (.generic (.topLevel "java.util.Set") [.string]) constant],
     annotatedField (.generic (.topLevel "java.util.List") [.string]) constant]

/-- Where the list is written behind the inner class with a set of the same constants, the field is
for the outer class, and the set refers to it by its bare name. -/
theorem fields_land_outermost_behind_nested :
    ∃ key entry first output place result,
      (key, entry) ∈
        (Scan.batch {} [behindNestedClass] (.starting .empty)).state.store.entries ∧
      entry.Outermost {} behindNestedClass key first ∧
      first.position = behindNestedClass.positions[0]! ∧
      Counterpart [behindNestedClass] (reported {} [behindNestedClass]) behindNestedClass output
        behindNestedClass.positions[1]! place
        behindNestedClass.positions[1]!.declaration.body[0]! result ∧
      result.annotations[0]!.arguments = some [.identifier entry.fieldIdentifier] := by
  let report := reported {} [behindNestedClass]
  let output := report.units[0]!
  let inner := behindNestedClass.positions[1]!
  let place := output.positions[1]!
  let result := place.declaration.body[0]!
  let found := (Occurrence.ofMember {} "M.java" inner inner.declaration.body[0]!)[0]!
  have counterpart : Counterpart [behindNestedClass] report behindNestedClass output inner place
      inner.declaration.body[0]! result :=
    ⟨by decide, by decide, [], place.declaration.body, by decide, by decide, by decide⟩
  obtain ⟨⟨key, entry⟩, here, scope, sought⟩ : ∃ stored : Key × Entry,
      stored ∈ (Scan.batch {} [behindNestedClass] (.starting .empty)).state.store.entries ∧
        stored.2.scope = .topLevel "p.M" ∧ found.Seeks {} stored.1 :=
    ⟨(scanned {} [behindNestedClass]).store.entries[0]!, by decide, rfl, _, _, ⟨_, rfl, rfl⟩, rfl⟩
  obtain ⟨_, lands⟩ := fields_land_outermost {} [behindNestedClass] report (by decide) (by decide)
    (by decide) rfl
  obtain ⟨unit, listed, first, _, outermost, _, companions⟩ := lands key entry here
  obtain rfl := List.mem_singleton.mp listed
  have home : first.position = behindNestedClass.positions[0]! := by
    obtain ⟨ahead, later, split, _⟩ := outermost.earliest
    have among : first ∈ Occurrence.ofUnit {} behindNestedClass := by
      rw [split]
      exact List.mem_append_right _ List.mem_cons_self
    refine position_of_name (by decide) (Occurrence.file_of_mem_ofUnit among).2 (by decide) ?_
    exact congrArg ClassType.qualifiedName (outermost.scope.symm.trans scope)
  have inside : first.position.chain <:+ inner.chain := by
    rw [home]
    exact List.suffix_cons _ _
  obtain ⟨_, bare⟩ := companions output inner place _ result counterpart inside
    result.annotations[0]! (by decide) (by decide)
  exact ⟨key, entry, first, output, place, result, here, outermost, home, counterpart,
    bare found List.mem_cons_self (by decide) sought⟩

end TypedDefaults
