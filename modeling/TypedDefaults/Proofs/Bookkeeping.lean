import Mathlib.Data.List.Dedup
import Mathlib.Logic.Function.Basic
import TypedDefaults.Proofs.Fields

/-!
# The books of a store

Beside the entries a program keeps a second map, the number of literals that it
has recorded for each file. A call that records an entry looks its key up, has
the entry made, checks it, counts it and stores it, and it can fail at any step
in front of the count. So the two maps agree after any calls, failing ones among
them, entries stay as they were first stored, and the entries of all classes of
all files are the entries of the store.

A maker may read the books and may fail; it does not write them. Calls come one
after another: how a lock keeps the calls of several threads apart is not shown
here.
-/

namespace TypedDefaults

open Java

/-- If the images of a list are among distinct values, the shares of the list for these values are
together the list. -/
theorem shares_perm {α β : Type} [DecidableEq β] (image : α → β) (list : List α) (values : List β)
    (distinct : values.Nodup) (covered : ∀ part ∈ list, image part ∈ values) :
    (values.flatMap fun value => list.filter fun part => image part = value).Perm list := by
  induction values generalizing list with
  | nil =>
    have none : list = [] :=
      List.eq_nil_iff_forall_not_mem.mpr fun part inside => List.not_mem_nil (covered part inside)
    rw [none]
    exact List.Perm.refl _
  | cons value others inductionHypothesis =>
    obtain ⟨absent, rest⟩ := List.nodup_cons.mp distinct
    -- The shares for the other values are those of what is left without the first share.
    have left : (others.flatMap fun other => list.filter fun part => image part = other) =
        others.flatMap fun other =>
          (list.filter fun part => !decide (image part = value)).filter fun part =>
            image part = other := by
      refine List.flatMap_congr fun other inside => ?_
      rw [List.filter_filter]
      refine List.filter_congr fun part _ => ?_
      have apart : other ≠ value := by
        rintro rfl
        exact absent inside
      by_cases same : image part = other
      · simp [same, apart]
      · simp [same]
    rw [List.flatMap_cons, left]
    refine (List.Perm.append_left _ (inductionHypothesis _ rest ?_)).trans
      (List.filter_append_perm _ list)
    intro part inside
    obtain ⟨among, apart⟩ := List.mem_filter.mp inside
    refine (List.mem_cons.mp (covered part among)).resolve_left ?_
    simpa using apart

/-- A store, and beside it the number of literals counted for each file. -/
structure Books where
  store : Store
  literals : String → Nat

namespace Books

/-- Nothing recorded. -/
def empty : Books := ⟨.empty, fun _ => 0⟩

/-- One more literal of a file is counted. -/
def withLiteral (books : Books) (file : String) : Books :=
  { books with literals := Function.update books.literals file (books.literals file + 1) }

/-- An entry is stored under a key that was free. -/
def withEntry (books : Books) (key : Key) (entry : Entry) : Books :=
  { books with store := books.store.insert key entry }

/-- The books once the key is counted, if it is one of a literal. -/
def counted (books : Books) : Key → Books
  | .symbol _ _ _ => books
  | .literal file _ => books.withLiteral file

/-- The books once the entry of a key is counted and stored. -/
def entered (books : Books) (key : Key) (entry : Entry) : Books :=
  (books.counted key).withEntry key entry

end Books

/-- A call that records an entry for a symbol or a literal, unless there is one. The maker of the
entry may read the books. -/
inductive Call (ε : Type) where
  | symbol (file : String) (target : Symbol) (kind : Kind) (make : Books → Except ε Entry)
  | literal (file token : String) (make : Books → Except ε Entry)

/-- Why a call failed: values of its kind have no key, or the record was refused. -/
inductive CallError (ε : Type) where
  | notKeyed (refused : NotKeyed)
  | refused (error : RecordError ε)

namespace Call

variable {ε : Type}

/-- The key that a call asks for. -/
def key : Call ε → Except NotKeyed Key
  | symbol file target kind _ => Key.ofSymbol file target kind
  | literal file token _ => .ok (.literal file token)

/-- The maker of a call. -/
def make : Call ε → Books → Except ε Entry
  | symbol _ _ _ make => make
  | literal _ _ make => make

/-- Counts a literal. Its entry must be of a container kind. -/
def count (entry : Entry) : Key → Work Key Books (CallError ε) Unit
  | .symbol _ _ _ => pure ()
  | .literal file _ =>
    if entry.kind.isContainer then Work.modify fun books => books.withLiteral file
    else Work.fail (.refused (.notAContainer entry.kind))

/-- Has the entry of a free key made, counts it and stores it. That the maker is called is made
known. -/
def enter (call : Call ε) (key : Key) : Work Key Books (CallError ε) Entry := do
  let books ← Work.state
  Work.tell [key]
  let entry ← Work.ofExcept ((call.make books).mapError fun error => .refused (.maker error))
  count entry key
  Work.modify fun books => books.withEntry key entry
  pure entry

/-- A call, step by step: the entry under its key, or a new one where there is none. -/
def perform (call : Call ε) : Work Key Books (CallError ε) Entry := do
  let key ← Work.ofExcept (call.key.mapError .notKeyed)
  let books ← Work.state
  match books.store.get? key with
  | some entry => pure entry
  | none => call.enter key

/-- What a call can do. -/
inductive Effect (call : Call ε) (books : Books) : Done Key Books (CallError ε) Entry → Prop where
  | unkeyed (refused : NotKeyed) (asked : call.key = .error refused) :
      Effect call books ⟨books, [], .error (.notKeyed refused)⟩
  | known (key : Key) (entry : Entry) (asked : call.key = .ok key)
      (stored : books.store.get? key = some entry) :
      Effect call books ⟨books, [], .ok entry⟩
  | unmade (key : Key) (error : ε) (asked : call.key = .ok key)
      (free : books.store.get? key = none) (made : call.make books = .error error) :
      Effect call books ⟨books, [key], .error (.refused (.maker error))⟩
  | unfit (key : Key) (entry : Entry) (asked : call.key = .ok key)
      (free : books.store.get? key = none) (made : call.make books = .ok entry)
      (refused : Store.admits key entry = false) :
      Effect call books ⟨books, [key], .error (.refused (.notAContainer entry.kind))⟩
  | entered (key : Key) (entry : Entry) (asked : call.key = .ok key)
      (free : books.store.get? key = none) (made : call.make books = .ok entry)
      (admitted : Store.admits key entry = true) :
      Effect call books ⟨books.entered key entry, [key], .ok entry⟩

/-- An entry that the key admits is counted. -/
theorem count_of_admitted {entry : Entry} {key : Key} (admitted : Store.admits key entry = true)
    (books : Books) :
    (count entry key : Work Key Books (CallError ε) Unit) books =
      ⟨books.counted key, [], .ok ()⟩ := by
  cases key with
  | symbol file target kind => rfl
  | literal file token =>
    have container : entry.kind.isContainer = true := admitted
    rw [count, if_pos container]
    rfl

/-- An entry that the key does not admit is refused before it is counted. -/
theorem count_of_refused {entry : Entry} {key : Key} (refused : Store.admits key entry = false)
    (books : Books) :
    (count entry key : Work Key Books (CallError ε) Unit) books =
      ⟨books, [], .error (.refused (.notAContainer entry.kind))⟩ := by
  cases key with
  | symbol file target kind => cases refused
  | literal file token =>
    have single : ¬entry.kind.isContainer = true := by simpa [Store.admits] using refused
    rw [count, if_neg single]
    rfl

/-- The maker's answer decides what comes of a free key. -/
theorem enter_effect (call : Call ε) (books : Books) (key : Key) (asked : call.key = .ok key)
    (free : books.store.get? key = none) : call.Effect books (call.enter key books) := by
  cases made : call.make books with
  | error error =>
    have ended : call.enter key books = ⟨books, [key], .error (.refused (.maker error))⟩ := by
      simp [enter, made, Work.bind_apply, Work.andThen, Work.state, Work.tell, Work.ofExcept,
        Work.fail, Except.mapError]
    rw [ended]
    exact .unmade key error asked free made
  | ok entry =>
    by_cases admitted : Store.admits key entry = true
    · have ended : call.enter key books = ⟨books.entered key entry, [key], .ok entry⟩ := by
        simp only [enter, made, Work.bind_apply, Work.andThen, Work.state, Work.tell,
          Work.ofExcept, Work.done, Except.mapError, count_of_admitted admitted]
        rfl
      rw [ended]
      exact .entered key entry asked free made admitted
    · have refused : Store.admits key entry = false := Bool.eq_false_iff.mpr admitted
      have ended : call.enter key books =
          ⟨books, [key], .error (.refused (.notAContainer entry.kind))⟩ := by
        simp [enter, made, Work.bind_apply, Work.andThen, Work.state, Work.tell, Work.ofExcept,
          Work.done, Except.mapError, count_of_refused refused]
      rw [ended]
      exact .unfit key entry asked free made refused

/-- What a call does is one of the effects of a call. -/
theorem perform_effect (call : Call ε) (books : Books) :
    call.Effect books (call.perform books) := by
  cases asked : call.key with
  | error refused =>
    have ended : call.perform books = ⟨books, [], .error (.notKeyed refused)⟩ := by
      rw [perform, asked]
      rfl
    rw [ended]
    exact .unkeyed refused asked
  | ok key =>
    cases stored : books.store.get? key with
    | some entry =>
      have ended : call.perform books = ⟨books, [], .ok entry⟩ := by
        simp [perform, asked, stored, Work.bind_apply, Work.andThen, Work.state, Work.ofExcept,
          Work.done, Except.mapError]
      rw [ended]
      exact .known key entry asked stored
    | none =>
      have ended : call.perform books = call.enter key books := by
        simp [perform, asked, stored, Work.bind_apply, Work.andThen, Work.state, Work.ofExcept,
          Work.done, Except.mapError]
      rw [ended]
      exact call.enter_effect books key asked stored

namespace Effect

variable {call : Call ε} {books : Books} {done : Done Key Books (CallError ε) Entry}

/-- A call for a key answers what `Store.record` answers, and leaves the store that it leaves. The
maker is called exactly if the key is free. -/
theorem records (effect : call.Effect books done) (key : Key) (asked : call.key = .ok key) :
    done.outcome =
        ((books.store.record key fun _ => call.make books).map fun answer => answer.2.1).mapError
          .refused ∧
      done.state.store =
        (match books.store.record key fun _ => call.make books with
          | .ok (store, _) => store
          | .error _ => books.store) ∧
      done.known = if (books.store.get? key).isSome then [] else [key] := by
  cases effect with
  | unkeyed refused again => cases asked.symm.trans again
  | known other entry again stored =>
    obtain rfl := Except.ok.inj (asked.symm.trans again)
    rw [Store.record, stored]
    exact ⟨rfl, rfl, rfl⟩
  | unmade other error again free made =>
    obtain rfl := Except.ok.inj (asked.symm.trans again)
    rw [Store.record, free, made]
    exact ⟨rfl, rfl, rfl⟩
  | unfit other entry again free made refused =>
    obtain rfl := Except.ok.inj (asked.symm.trans again)
    rw [Store.record, free, made]
    simp [refused, Except.map, Except.mapError]
  | entered other entry again free made admitted =>
    obtain rfl := Except.ok.inj (asked.symm.trans again)
    rw [Store.record, free, made]
    cases key <;>
      simp [admitted, Except.map, Except.mapError, Books.entered, Books.withEntry, Books.counted,
        Books.withLiteral]

/-- A call that fails leaves the books as they are. -/
theorem failed_leaves (effect : call.Effect books done) (failure : CallError ε)
    (failed : done.outcome = .error failure) : done.state = books := by
  cases effect with
  | unkeyed | known | unmade | unfit => rfl
  | entered => cases failed

/-- An entry stays under its key. -/
theorem keeps (effect : call.Effect books done) (key : Key) (entry : Entry)
    (stored : books.store.get? key = some entry) : done.state.store.get? key = some entry := by
  cases effect with
  | unkeyed | known | unmade | unfit => exact stored
  | entered other new =>
    cases other <;> exact Store.get?_insert _ _ _ _ _ stored

/-- A call for a key of an entry answers the entry. It calls no maker and changes nothing. -/
theorem of_stored (effect : call.Effect books done) (key own : Key) (entry : Entry)
    (stored : books.store.get? key = some entry) (asked : call.key = .ok own)
    (same : own.identity = key.identity) : done = ⟨books, [], .ok entry⟩ := by
  rw [← books.store.get?_congr same] at stored
  cases effect with
  | unkeyed refused again => cases asked.symm.trans again
  | known other found again answered =>
    obtain rfl := Except.ok.inj (asked.symm.trans again)
    obtain rfl := Option.some.inj (stored.symm.trans answered)
    rfl
  | unmade other _ again free | unfit other _ again free | entered other _ again free =>
    obtain rfl := Except.ok.inj (asked.symm.trans again)
    cases stored.symm.trans free

end Effect

end Call

namespace Books

variable {ε : Type}

/-- The running numbers are those of the literals stored, and every key is stored once. -/
structure Balanced (books : Books) : Prop where
  counted : ∀ file, books.literals file = books.store.countLiterals file
  distinct : (books.store.entries.map fun stored => stored.1.identity).Nodup

/-- The books after calls, one after another. A call that fails does not end them. -/
def after (books : Books) (calls : List (Call ε)) : Books :=
  calls.foldl (fun books call => (call.perform books).state) books

theorem after_append (books : Books) (earlier later : List (Call ε)) :
    books.after (earlier ++ later) = (books.after earlier).after later :=
  List.foldl_append

/-- A free key is under none of the entries. -/
theorem identity_fresh {store : Store} {key : Key} (free : store.get? key = none) :
    key.identity ∉ store.entries.map fun stored => stored.1.identity := by
  intro inside
  obtain ⟨stored, among, same⟩ := List.mem_map.mp inside
  have none := List.find?_eq_none.mp (Option.map_eq_none_iff.mp free) stored among
  exact none (decide_eq_true same)

/-- One more entry is one more literal for the file of its key, if that is one of a literal. -/
theorem countLiterals_insert (store : Store) (key : Key) (entry : Entry) (file : String) :
    (store.insert key entry).countLiterals file =
      store.countLiterals file + if key.isLiteralOf file then 1 else 0 := by
  rw [Store.countLiterals, Store.insert, List.filter_append, List.length_append,
    Store.countLiterals, List.filter_singleton]
  cases key.isLiteralOf file <;> rfl

/-- Books with one more entry under a free key are balanced. -/
theorem Balanced.entered {books : Books} (balanced : books.Balanced) (key : Key) (entry : Entry)
    (free : books.store.get? key = none) : (books.entered key entry).Balanced := by
  have store : (books.entered key entry).store = books.store.insert key entry := by
    cases key <;> rfl
  constructor
  · intro file
    rw [store, countLiterals_insert, ← balanced.counted]
    cases key with
    | symbol other target kind => rfl
    | literal other token =>
      by_cases same : other = file
      · subst same
        simp [Books.entered, Books.counted, withEntry, withLiteral, Key.isLiteralOf]
      · simp [Books.entered, Books.counted, withEntry, withLiteral, Key.isLiteralOf, same,
          Function.update_of_ne (Ne.symm same)]
  · rw [store, Store.insert, List.map_append, List.map_singleton]
    refine List.Nodup.append balanced.distinct (List.nodup_singleton _) ?_
    rw [List.disjoint_singleton]
    exact identity_fresh free

/-- A call leaves balanced books balanced. -/
theorem Balanced.step {books : Books} {call : Call ε} {done : Done Key Books (CallError ε) Entry}
    (balanced : books.Balanced) (effect : call.Effect books done) : done.state.Balanced := by
  cases effect with
  | unkeyed | known | unmade | unfit => exact balanced
  | entered key entry asked free made admitted => exact balanced.entered key entry free

/-- Calls on empty books leave them balanced. -/
theorem balanced_after (calls : List (Call ε)) : (Books.empty.after calls).Balanced := by
  have empty : Books.empty.Balanced := ⟨fun _ => rfl, List.nodup_nil⟩
  have every : ∀ books : Books, books.Balanced → (books.after calls).Balanced := by
    induction calls with
    | nil => exact fun books balanced => balanced
    | cons call rest inductionHypothesis =>
      exact fun books balanced =>
        inductionHypothesis _ (balanced.step (call.perform_effect books))
  exact every _ empty

/-- An entry stays under its key through all calls. -/
theorem after_keeps (books : Books) (calls : List (Call ε)) (key : Key) (entry : Entry)
    (stored : books.store.get? key = some entry) :
    (books.after calls).store.get? key = some entry := by
  induction calls generalizing books with
  | nil => exact stored
  | cons call rest inductionHypothesis =>
    exact inductionHypothesis _ ((call.perform_effect books).keeps key entry stored)

end Books

/-- The files of entries, each with the qualified names of the classes that get fields. -/
def Store.homes (store : Store) : List (String × String) :=
  (store.entries.map fun stored => (stored.1.file, stored.2.scope.qualifiedName)).dedup

/-- The entries for a class are those of its file and its name, in another order. -/
theorem Store.entriesFor_perm (store : Store) (file : String) (scope : ClassType) :
    (store.entriesFor file scope).Perm
      ((store.entries.filter fun stored =>
        (stored.1.file, stored.2.scope.qualifiedName) = (file, scope.qualifiedName)).map
          Prod.snd) := by
  refine (Synthesis.sortByName_perm _).trans ?_
  rw [Store.entriesOf, List.filter_map, List.filter_filter]
  refine List.Perm.of_eq (congrArg (List.map Prod.snd) (List.filter_congr fun stored _ => ?_))
  simp [Prod.ext_iff, and_comm]

/-- The entries for all classes of all files are those of the store. -/
theorem Store.entriesFor_partition (store : Store) (classOf : String → ClassType)
    (named : ∀ name, (classOf name).qualifiedName = name) :
    (store.homes.flatMap fun home => store.entriesFor home.1 (classOf home.2)).Perm
      (store.entries.map Prod.snd) := by
  have shares : (store.homes.flatMap fun home => store.entriesFor home.1 (classOf home.2)).Perm
      (store.homes.flatMap fun home => (store.entries.filter fun stored =>
        (stored.1.file, stored.2.scope.qualifiedName) = home).map Prod.snd) := by
    refine List.Perm.flatMap_left _ fun home _ => ?_
    have own := store.entriesFor_perm home.1 (classOf home.2)
    rwa [named] at own
  rw [← List.map_flatMap] at shares
  refine shares.trans ((shares_perm _ _ _ (List.nodup_dedup _) ?_).map Prod.snd)
  intro stored inside
  exact List.mem_dedup.mpr (List.mem_map.mpr ⟨stored, inside, rfl⟩)

/-- Entries for a class stand in the order of their field names. -/
theorem Store.entriesFor_ordered (store : Store) (file : String) (scope : ClassType) :
    (store.entriesFor file scope).Pairwise fun first second => first.fieldName ≤ second.fieldName :=
  Synthesis.sortByName_ordered _

/-- Whatever calls come, successful, repeated and failing ones in any order: a call does what
`Store.record` does and calls the maker only for a free key; an entry once stored answers every
later question and call for its key, without the maker; a call that fails changes nothing; the
running number of literals of a file is the number of literal keys stored for it, and every key is
stored once; and the lists of entries for the classes of the files, each sorted by field name, are
together the entries stored. -/
theorem books_balance {ε : Type} (earlier later : List (Call ε)) :
    let before := Books.empty.after earlier
    let books := Books.empty.after (earlier ++ later)
    (∀ (call : Call ε) key, call.key = .ok key →
      (call.perform books).outcome =
          ((books.store.record key fun _ => call.make books).map fun answer => answer.2.1).mapError
            .refused ∧
        (call.perform books).state.store =
          (match books.store.record key fun _ => call.make books with
            | .ok (store, _) => store
            | .error _ => books.store) ∧
        (call.perform books).known = if (books.store.get? key).isSome then [] else [key]) ∧
    (∀ key entry, before.store.get? key = some entry →
      books.store.get? key = some entry ∧
        ∀ (call : Call ε) own, call.key = .ok own → own.identity = key.identity →
          call.perform books = ⟨books, [], .ok entry⟩) ∧
    (∀ (call : Call ε) failure, (call.perform books).outcome = .error failure →
      (call.perform books).state = books) ∧
    (∀ file, books.literals file = books.store.countLiterals file ∧
      books.literals file = (books.store.entries.map Prod.fst).countP (Key.isLiteralOf file)) ∧
    (books.store.entries.map fun stored => stored.1.identity).Nodup ∧
    (∀ classOf : String → ClassType, (∀ name, (classOf name).qualifiedName = name) →
      (books.store.homes.flatMap fun home =>
        books.store.entriesFor home.1 (classOf home.2)).Perm (books.store.entries.map Prod.snd)) ∧
    ∀ file scope, (books.store.entriesFor file scope).Pairwise fun first second =>
      first.fieldName ≤ second.fieldName := by
  intro before books
  have balanced : books.Balanced := Books.balanced_after _
  refine ⟨?_, ?_, ?_, ?_, balanced.distinct, books.store.entriesFor_partition,
    books.store.entriesFor_ordered⟩
  · exact fun call key asked => (call.perform_effect books).records key asked
  · intro key entry stored
    have still : books.store.get? key = some entry := by
      have kept := before.after_keeps later key entry stored
      rwa [← Books.after_append] at kept
    exact ⟨still, fun call own asked same =>
      (call.perform_effect books).of_stored key own entry still asked same⟩
  · exact fun call failure failed => (call.perform_effect books).failed_leaves failure failed
  · intro file
    refine ⟨balanced.counted file, ?_⟩
    rw [balanced.counted, Store.countLiterals, List.countP_map, List.countP_eq_length_filter]
    rfl

/-- An entry of a kind, for the class `p.M`. -/
def entryOf (kind : Kind) (name : String) : Entry :=
  ⟨name, kind, none, .resolvedLocally, .literal "\"a\"" none, .topLevel "p.M"⟩

/-- Calls of which one stores an entry, one is refused after its maker was called, one has no key
and one has a maker that fails. -/
def mixedCalls : List (Call String) :=
  [.literal "M.java" "\"a\"" fun books => .ok (entryOf .list (toString (books.literals "M.java"))),
   .literal "M.java" "\"b\"" fun _ => .ok (entryOf .int "b"),
   .symbol "M.java" ⟨none, "X", none⟩ .unsupported fun _ => .ok (entryOf .list "c"),
   .symbol "M.java" ⟨none, "X", none⟩ .int fun _ => .error "no field"]

/-- Calls of which three fail leave one entry and one literal. A further call for the literal
answers the entry, though its maker would fail. -/
theorem books_balance_after_refusals :
    let books := Books.empty.after mixedCalls
    let again : Call String := .literal "M.java" "\"a\"" fun _ => .error "called"
    books.store.entries = [(.literal "M.java" "\"a\"", entryOf .list "0")] ∧
      books.literals "M.java" = 1 ∧
      again.perform books = ⟨books, [], .ok (entryOf .list "0")⟩ ∧
      books.store.homes = [("M.java", "p.M")] := by
  intro books again
  obtain ⟨_, kept, _, counted, _⟩ := books_balance (mixedCalls.take 1) (mixedCalls.drop 1)
  refine ⟨by decide, (counted "M.java").2.trans (by decide), ?_, by decide⟩
  exact (kept (.literal "M.java" "\"a\"") (entryOf .list "0") (by decide)).2 again _ rfl rfl

end TypedDefaults
