import TypedDefaults.Proofs.FreshNames

/-!
# Sequences of names

A search without a bound of its own tries a candidate, and then its numberings
one after the other. It always ends, after at most one turn for each name in
use, on the first that is free. A sequence of requests is answered with these
names, each in sight of the names given before for the same file alone. So no
name is given twice for a file, and what is asked for one file does not show in
the answers for another.
-/

namespace TypedDefaults

namespace FieldName

variable {used : List String} {candidate : String}

/-- Where the search ends that starts at a number. A free numbering ends it, and one in use makes it
turn to the next number. Nothing bounds its turns. -/
inductive EndsAt (used : List String) (candidate : String) : Nat → Nat → Prop where
  | free (number : Nat) (unused : numbered candidate number ∉ used) :
      EndsAt used candidate number number
  | turned (number last : Nat) (inUse : numbered candidate number ∈ used)
      (further : EndsAt used candidate (number + 1) last) :
      EndsAt used candidate number last

/-- A search ends on a free numbering, and has found all before it in use. -/
theorem EndsAt.first {number last : Nat} (ends : EndsAt used candidate number last) :
    numbered candidate last ∉ used ∧
      ∀ earlier, number ≤ earlier → earlier < last → numbered candidate earlier ∈ used := by
  induction ends with
  | free number unused =>
    refine ⟨unused, ?_⟩
    intro earlier reached before
    omega
  | turned number last inUse further inductionHypothesis =>
    obtain ⟨unused, tried⟩ := inductionHypothesis
    refine ⟨unused, ?_⟩
    intro earlier reached before
    by_cases start : earlier = number
    · rw [start]
      exact inUse
    · exact tried earlier (by omega) before

/-- Where a bounded search finds a free numbering, the search without a bound ends on the same. -/
theorem firstFree_ends (number attempts : Nat)
    (unused : firstFree used candidate number attempts ∉ used) :
    ∃ last ≤ number + attempts, EndsAt used candidate number last ∧
      firstFree used candidate number attempts = numbered candidate last := by
  induction attempts generalizing number with
  | zero => exact ⟨number, Nat.le_refl number, .free number unused, rfl⟩
  | succ attempts inductionHypothesis =>
    by_cases inUse : numbered candidate number ∈ used
    · have turned : firstFree used candidate number (attempts + 1) =
          firstFree used candidate (number + 1) attempts := by
        rw [firstFree, if_pos (List.contains_iff_mem.mpr inUse)]
      rw [turned] at unused ⊢
      obtain ⟨last, bounded, ends, found⟩ := inductionHypothesis (number + 1) unused
      exact ⟨last, by omega, .turned number last inUse ends, found⟩
    · have stays : firstFree used candidate number (attempts + 1) = numbered candidate number := by
        rw [firstFree, if_neg fun contained => inUse (List.contains_iff_mem.mp contained)]
      exact ⟨number, by omega, .free number inUse, stays⟩

/-- The search from the candidate itself ends, after at most one turn for each name in use, on the
name that the bounded one finds. -/
theorem fresh_ends (used : List String) (candidate : String) :
    ∃ last ≤ used.length, EndsAt used candidate 0 last ∧
      fresh used candidate = numbered candidate last := by
  obtain ⟨last, bounded, ends, found⟩ := firstFree_ends 0 used.length (fresh_unused used candidate)
  rw [Nat.zero_add] at bounded
  exact ⟨last, bounded, ends, found⟩

/-- The name that a candidate leads to: the candidate itself if it is free, and otherwise the
candidate with the least positive number that makes it free. -/
inductive LeadsTo (used : List String) (candidate : String) : String → Prop where
  | bare (unused : candidate ∉ used) : LeadsTo used candidate candidate
  | counted (number : Nat) (positive : 0 < number) (inUse : candidate ∈ used)
      (unused : candidate ++ toString number ∉ used)
      (least : ∀ smaller, 0 < smaller → smaller < number →
        candidate ++ toString smaller ∈ used) :
      LeadsTo used candidate (candidate ++ toString number)

/-- A positive number is written behind the candidate. -/
theorem numbered_positive (candidate : String) {number : Nat} (positive : 0 < number) :
    numbered candidate number = candidate ++ toString number := by
  cases number with
  | zero => exact absurd positive (Nat.lt_irrefl 0)
  | succ number => rfl

/-- A search from the candidate itself ends on the name that the candidate leads to. -/
theorem EndsAt.leadsTo {last : Nat} (ends : EndsAt used candidate 0 last) :
    LeadsTo used candidate (numbered candidate last) := by
  obtain ⟨unused, tried⟩ := ends.first
  by_cases bare : last = 0
  · subst bare
    exact .bare unused
  · have positive : 0 < last := Nat.pos_of_ne_zero bare
    rw [numbered_positive candidate positive] at unused ⊢
    refine .counted last positive ?_ unused ?_
    · exact tried 0 (Nat.le_refl 0) positive
    · intro smaller counted below
      rw [← numbered_positive candidate counted]
      exact tried smaller (Nat.zero_le smaller) below

/-- The name that a candidate leads to is free. -/
theorem LeadsTo.unused {name : String} (leads : LeadsTo used candidate name) : name ∉ used := by
  cases leads with
  | bare unused => exact unused
  | counted number positive inUse unused least => exact unused

end FieldName

/-- What a name is asked for with: a file, a base, the kind of the field, and names to avoid. -/
structure NameRequest where
  file : String
  base : String
  kind : Kind
  taken : List String
  deriving DecidableEq, Repr, Inhabited

/-- What a name is to be made of. -/
def NameRequest.candidate (request : NameRequest) : String :=
  request.base ++ FieldName.ending request.kind

/-- A request with what it was answered. -/
structure NameReply where
  request : NameRequest
  answer : Except NotSynthesized String
  deriving DecidableEq, Repr, Inhabited

/-- The names given for a file, in the order of the replies. -/
def NameReply.namesFor (file : String) (replies : List NameReply) : List String :=
  replies.filterMap fun reply => if reply.request.file = file then reply.answer.toOption else none

/-- A reply that is right where names have been given before for its file. For a kind with fields
the search ends, and the name is the one that the candidate leads to; any other kind is refused. -/
structure NameReply.Exact (given : List String) (reply : NameReply) : Prop where
  named : reply.request.kind.isStored = true →
    ∃ name, reply.answer = .ok name ∧
      (∃ last, FieldName.EndsAt (given ++ reply.request.taken) reply.request.candidate 0 last ∧
        name = FieldName.numbered reply.request.candidate last) ∧
      FieldName.LeadsTo (given ++ reply.request.taken) reply.request.candidate name
  refused : reply.request.kind.isStored = false → reply.answer = .error ⟨reply.request.kind⟩

/-- A name in a reply that is right is none of those given before, and none to be avoided. -/
theorem NameReply.Exact.unused {given : List String} {reply : NameReply} {name : String}
    (right : reply.Exact given) (answered : reply.answer = .ok name) :
    name ∉ given ∧ name ∉ reply.request.taken := by
  cases stored : reply.request.kind.isStored with
  | true =>
    obtain ⟨named, answer, _, leads⟩ := right.named stored
    obtain rfl : named = name := Except.ok.inj (answer.symm.trans answered)
    have unused := leads.unused
    rw [List.mem_append, not_or] at unused
    exact unused
  | false =>
    have refused := right.refused stored
    rw [answered] at refused
    cases refused

namespace NameRegistry

/-- Answers a request. The registry stays as it is where no name is given. -/
def reply (registry : NameRegistry) (request : NameRequest) : NameReply × NameRegistry :=
  match registry.generate request.file request.base request.kind request.taken with
  | .ok (name, after) => (⟨request, .ok name⟩, after)
  | .error refused => (⟨request, .error refused⟩, registry)

/-- Answers requests one after the other. -/
def replies (registry : NameRegistry) : List NameRequest → List NameReply
  | [] => []
  | request :: later => (registry.reply request).1 :: (registry.reply request).2.replies later

variable {registry other : NameRegistry} {request : NameRequest}

/-- A request for a kind with fields is given a name. -/
theorem reply_stored (stored : request.kind.isStored = true) :
    let given := registry.give request.file request.base (FieldName.ending request.kind)
      request.taken
    registry.reply request = (⟨request, .ok given.1⟩, given.2) := by
  simp only [reply, generate, FieldName.suffix, if_pos stored, Except.map]

/-- A request for any other kind is refused. -/
theorem reply_refused (bare : request.kind.isStored = false) :
    registry.reply request = (⟨request, .error ⟨request.kind⟩⟩, registry) := by
  simp only [reply, generate, FieldName.suffix, bare, Bool.false_eq_true, if_false, Except.map]

/-- A reply is one to the request. -/
theorem request_reply (registry : NameRegistry) (request : NameRequest) :
    (registry.reply request).1.request = request := by
  cases stored : request.kind.isStored with
  | true => rw [reply_stored stored]
  | false => rw [reply_refused stored]

/-- A reply is right after the names that the registry has for the file. -/
theorem reply_exact (registry : NameRegistry) (request : NameRequest) :
    (registry.reply request).1.Exact (registry.namesOf request.file) := by
  cases stored : request.kind.isStored with
  | true =>
    rw [reply_stored stored]
    refine ⟨fun _ => ?_, fun bare => ?_⟩
    · obtain ⟨last, _, ends, found⟩ := FieldName.fresh_ends
        (registry.namesOf request.file ++ request.taken) request.candidate
      refine ⟨_, rfl, ⟨last, ends, found⟩, ?_⟩
      have leads := ends.leadsTo
      rwa [← found] at leads
    · exact absurd (stored.symm.trans bare) Bool.noConfusion
  | false =>
    rw [reply_refused stored]
    refine ⟨fun named => ?_, fun _ => rfl⟩
    exact absurd (stored.symm.trans named) Bool.noConfusion

/-- A reply adds its name to those of its file, and to those of no other file. -/
theorem namesOf_reply (registry : NameRegistry) (request : NameRequest) (file : String) :
    (registry.reply request).2.namesOf file =
      registry.namesOf file ++ NameReply.namesFor file [(registry.reply request).1] := by
  cases stored : request.kind.isStored with
  | true =>
    rw [reply_stored stored]
    by_cases own : request.file = file
    · simp [give, namesOf, NameReply.namesFor, own, Except.toOption]
    · simp [give, namesOf, NameReply.namesFor, own]
  | false =>
    rw [reply_refused stored]
    simp [NameReply.namesFor, Except.toOption]

/-- A reply depends on nothing but the names of its file. -/
theorem reply_congr (same : registry.namesOf request.file = other.namesOf request.file) :
    (registry.reply request).1 = (other.reply request).1 := by
  cases stored : request.kind.isStored with
  | true => rw [reply_stored stored, reply_stored stored, give, give, same]
  | false => rw [reply_refused stored, reply_refused stored]

/-- Each request is replied to, in order. -/
theorem map_request_replies (registry : NameRegistry) (requests : List NameRequest) :
    (registry.replies requests).map NameReply.request = requests := by
  induction requests generalizing registry with
  | nil => rfl
  | cons request later inductionHypothesis =>
    rw [replies, List.map_cons, request_reply, inductionHypothesis]

/-- The names given by a reply and by the replies behind it. -/
theorem namesFor_cons (file : String) (reply : NameReply) (later : List NameReply) :
    NameReply.namesFor file (reply :: later) =
      NameReply.namesFor file [reply] ++ NameReply.namesFor file later := by
  rw [← List.singleton_append, NameReply.namesFor, List.filterMap_append]
  rfl

/-- Each reply is right after the names that the registry had and those given in between. -/
theorem replies_exact (registry : NameRegistry) (requests : List NameRequest)
    (earlier later : List NameReply) (reply : NameReply)
    (split : registry.replies requests = earlier ++ reply :: later) :
    reply.Exact (registry.namesOf reply.request.file ++
      NameReply.namesFor reply.request.file earlier) := by
  induction requests generalizing registry earlier with
  | nil => exact absurd split.symm (List.append_ne_nil_of_right_ne_nil _ (List.cons_ne_nil _ _))
  | cons request rest inductionHypothesis =>
    rw [replies] at split
    cases earlier with
    | nil =>
      obtain ⟨first, _⟩ := List.cons.inj split
      subst first
      have right := reply_exact registry request
      rwa [request_reply, NameReply.namesFor, List.filterMap_nil, List.append_nil]
    | cons head earlier =>
      obtain ⟨first, rest⟩ := List.cons.inj split
      have later := inductionHypothesis (registry.reply request).2 earlier rest
      rwa [namesOf_reply, first, List.append_assoc, ← namesFor_cons] at later

/-- Names without repetition stay so when a reply adds its own. -/
theorem nodup_namesOf_reply (file : String) (distinct : (registry.namesOf file).Nodup) :
    ((registry.reply request).2.namesOf file).Nodup := by
  have right := reply_exact registry request
  rw [namesOf_reply, NameReply.namesFor, List.filterMap_cons, List.filterMap_nil, request_reply]
  by_cases own : request.file = file
  · rw [if_pos own]
    cases answered : (registry.reply request).1.answer with
    | error refused => simpa only [Except.toOption, List.append_nil] using distinct
    | ok name =>
      have unused := (right.unused answered).1
      rw [own] at unused
      simpa only [Except.toOption, List.concat_eq_append] using List.Nodup.concat unused distinct
  · simpa only [if_neg own, List.append_nil] using distinct

/-- No name is given twice for a file, and none that the registry had for it. -/
theorem nodup_replies (registry : NameRegistry) (requests : List NameRequest) (file : String)
    (distinct : (registry.namesOf file).Nodup) :
    (registry.namesOf file ++ NameReply.namesFor file (registry.replies requests)).Nodup := by
  induction requests generalizing registry with
  | nil => simpa [replies, NameReply.namesFor] using distinct
  | cons request later inductionHypothesis =>
    have grown := inductionHypothesis (registry.reply request).2 (nodup_namesOf_reply file distinct)
    rwa [namesOf_reply, List.append_assoc, ← namesFor_cons] at grown

/-- The replies for a file are those that its requests have by themselves, from any registry with
the same names for the file. -/
theorem filter_replies (registry other : NameRegistry) (requests : List NameRequest)
    (file : String) (same : registry.namesOf file = other.namesOf file) :
    (registry.replies requests).filter (fun reply => reply.request.file = file) =
      other.replies (requests.filter fun request => request.file = file) := by
  induction requests generalizing registry other with
  | nil => rfl
  | cons request later inductionHypothesis =>
    rw [replies]
    by_cases own : request.file = file
    · have first : (registry.reply request).1 = (other.reply request).1 :=
        reply_congr (by rw [own]; exact same)
      have grown : (registry.reply request).2.namesOf file =
          (other.reply request).2.namesOf file := by
        rw [namesOf_reply, namesOf_reply, same, first]
      rw [List.filter_cons_of_pos (by simpa [request_reply] using own),
        List.filter_cons_of_pos (by simpa using own), replies, first,
        inductionHypothesis _ _ grown]
    · have kept : (registry.reply request).2.namesOf file = other.namesOf file := by
        rw [namesOf_reply, NameReply.namesFor, List.filterMap_cons, request_reply, if_neg own,
          List.filterMap_nil, List.append_nil, same]
      rw [List.filter_cons_of_neg (by simpa [request_reply] using own),
        List.filter_cons_of_neg (by simpa using own), inductionHypothesis _ _ kept]

/-- Requests to an empty registry are answered with the least free names: each is replied to, in
order and rightly after the names given before for its file; no name in a reply is one to be
avoided; and for each file the names are distinct, and the replies are those that its requests have
without the others. -/
theorem fresh_names_in_sequence (requests : List NameRequest) :
    let replies := empty.replies requests
    replies.map NameReply.request = requests ∧
      (∀ earlier reply later, replies = earlier ++ reply :: later →
        reply.Exact (NameReply.namesFor reply.request.file earlier)) ∧
      (∀ reply ∈ replies, ∀ name, reply.answer = .ok name → name ∉ reply.request.taken) ∧
      ∀ file, (NameReply.namesFor file replies).Nodup ∧
        replies.filter (fun reply => reply.request.file = file) =
          empty.replies (requests.filter fun request => request.file = file) := by
  intro replies
  refine ⟨map_request_replies empty requests, ?_, ?_, ?_⟩
  · intro earlier reply later split
    exact replies_exact empty requests earlier later reply split
  · intro reply listed name answered
    obtain ⟨earlier, later, split⟩ := List.append_of_mem listed
    exact ((replies_exact empty requests earlier later reply split).unused answered).2
  · intro file
    refine ⟨nodup_replies empty requests file List.nodup_nil, ?_⟩
    exact filter_replies empty empty requests file rfl

/-- Four requests: the second is for a base of which the name has been given and the first number is
to be avoided, the third is for another file, and the last is for a kind without fields. -/
def countedRequests : List NameRequest :=
  [⟨"A.java", "x", .int, ["x"]⟩, ⟨"A.java", "x", .int, ["x", "xAsInt1"]⟩,
    ⟨"B.java", "x", .int, []⟩, ⟨"A.java", "x", .unsupported, []⟩]

/-- Of four requests, the second is given the number two, the one for another file begins anew, and
the last is refused. -/
theorem second_name_counted :
    let first : NameReply := ⟨⟨"A.java", "x", .int, ["x"]⟩, .ok "xAsInt"⟩
    let second : NameReply := ⟨⟨"A.java", "x", .int, ["x", "xAsInt1"]⟩, .ok "xAsInt2"⟩
    let third : NameReply := ⟨⟨"B.java", "x", .int, []⟩, .ok "xAsInt"⟩
    let fourth : NameReply := ⟨⟨"A.java", "x", .unsupported, []⟩, .error ⟨.unsupported⟩⟩
    empty.replies countedRequests = [first, second, third, fourth] ∧
      second.Exact ["xAsInt"] ∧ third.Exact [] ∧ fourth.Exact ["xAsInt", "xAsInt2"] ∧
      "xAsInt2" ∉ second.request.taken ∧
      (NameReply.namesFor "A.java" (empty.replies countedRequests)).Nodup ∧
      (empty.replies countedRequests).filter (fun reply => reply.request.file = "B.java") =
        [third] := by
  intro first second third fourth
  have answers : empty.replies countedRequests = [first, second, third, fourth] := by decide +kernel
  obtain ⟨_, right, unused, apart⟩ := fresh_names_in_sequence countedRequests
  refine ⟨answers, ?_, ?_, ?_, ?_, (apart "A.java").1, ?_⟩
  · exact right [first] second [third, fourth] answers
  · exact right [first, second] third [fourth] answers
  · exact right [first, second, third] fourth [] answers
  · exact unused second (by rw [answers]; exact .tail _ (.head _)) "xAsInt2" rfl
  · rw [(apart "B.java").2]
    decide +kernel

end NameRegistry

end TypedDefaults
