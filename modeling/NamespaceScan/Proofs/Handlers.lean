import Mathlib.Data.List.Induction
import Mathlib.Data.List.Infix
import NamespaceScan.Log.Registry

/-!
# Handlers of the loggers

However loggers are asked for and logging is switched on and off, no logger has two
handlers, and only the root has one that writes. It has one exactly while logging is
on, in the setup of the latest request to switch it on. Nothing stands above the root,
so a record gets to that handler once at most and is written at most once.

A request leaves a logger with a single handler or as it was, whichever loggers are
above it. What is above matters only where it is asked whether a record is heard at
all: a logger that is left without a handler has another one above it, so every record
of an existing logger gets to some handler.
-/

namespace NamespaceScan.Log.Registry

variable {r : Registry}

/-! ## What a request changes -/

theorem find?_put (r : Registry) (name : Text) (logger : Logger) (other : Text) :
    (r.put name logger).find? other = if other = name then some logger else r.find? other := by
  by_cases same : other = name
  · subst same
    simp [put, find?]
  · rw [if_neg same, find?, find?, put, List.find?_cons_of_neg (by simpa using Ne.symm same),
      List.find?_filter]
    congr 2
    funext entry
    by_cases isOther : entry.1 = other
    · simp [isOther, same]
    · simp [isOther]

theorem logger_put (r : Registry) (name : Text) (logger : Logger) (other : Text) :
    (r.put name logger).logger other = if other = name then logger else r.logger other := by
  rw [Registry.logger, find?_put]
  split <;> rfl

theorem logger_configure (r : Registry) (setup : Setup) (name : Text) :
    (r.configure setup).logger name =
      if name = rootName then
        { level := setup.level, handlers := [.stream setup], passesOn := false }
      else r.logger name :=
  logger_put r rootName _ name

theorem logger_disable (r : Registry) (name : Text) :
    r.disable.logger name =
      if name = rootName then { r.root with level := .unset, handlers := [.silent] }
      else r.logger name :=
  logger_put r rootName _ name

/-- Asking for a logger gives it a silent handler, or changes nothing because it or the
one above it has a handler. Other loggers are not changed. -/
theorem logger_request (r : Registry) (asked : Option Text) (name : Text) :
    (r.request asked).logger name = { r.logger name with handlers := [.silent] } ∧
        (r.logger name).handlers = [] ∨
      (r.request asked).logger name = r.logger name ∧
        (name = fullName asked → (r.logger name).handlers = [] →
          (r.parentName? name).isSome) := by
  rw [request, logger_put]
  by_cases isAsked : name = fullName asked
  · subst isAsked
    rw [if_pos rfl]
    split
    · rename_i alone
      exact Or.inl ⟨rfl, by simpa using (Bool.and_eq_true_iff.mp alone).1⟩
    · rename_i accompanied
      refine Or.inr ⟨rfl, fun _ bare => ?_⟩
      cases above : r.parentName? (fullName asked) with
      | some parent => rfl
      | none => simp [bare, parent?, above] at accompanied
  · rw [if_neg isAsked]
    exact Or.inr ⟨rfl, fun same => absurd same isAsked⟩

/-- The full name of the logger that a request is about. -/
def Request.target : Request → Text
  | .logger asked => fullName asked
  | .configure _ | .disable => rootName

/-- A request leaves a logger under the name it is about and all other names alone. -/
theorem find?_step (r : Registry) (request : Request) :
    ∃ logger, ∀ name, (r.step request).find? name =
      if name = request.target then some logger else r.find? name := by
  cases request <;> exact ⟨_, find?_put r _ _⟩

/-- A request leaves a logger with a single handler or as it was. The logger that it is
about is left without a handler only if another one is above it. -/
theorem logger_step (r : Registry) (request : Request) (name : Text) :
    (∃ handler, ((r.step request).logger name).handlers = [handler]) ∨
      (r.step request).logger name = r.logger name ∧
        (name = request.target → (r.logger name).handlers = [] →
          (r.parentName? name).isSome) := by
  cases request with
  | logger asked =>
      rcases logger_request r asked name with ⟨given, -⟩ | kept
      · exact Or.inl ⟨.silent, congrArg Logger.handlers given⟩
      · exact Or.inr kept
  | configure setup =>
      rw [step, logger_configure]
      split
      · exact Or.inl ⟨.stream setup, rfl⟩
      · rename_i notRoot
        exact Or.inr ⟨rfl, fun isRoot => absurd isRoot notRoot⟩
  | disable =>
      rw [step, logger_disable]
      split
      · exact Or.inl ⟨.silent, rfl⟩
      · rename_i notRoot
        exact Or.inr ⟨rfl, fun isRoot => absurd isRoot notRoot⟩

theorem run_append (r : Registry) (earlier : List Request) (latest : Request) :
    r.run (earlier ++ [latest]) = (r.run earlier).step latest :=
  List.foldl_append

/-! ## One handler for each logger -/

/-- No logger has two handlers. -/
def Single (r : Registry) : Prop := ∀ name, (r.logger name).handlers.length ≤ 1

theorem Single.step (single : r.Single) (request : Request) : (r.step request).Single := by
  intro name
  rcases logger_step r request name with ⟨handler, one⟩ | ⟨kept, -⟩
  · exact one ▸ Nat.le_refl 1
  · exact kept ▸ single name

theorem single_run (requests : List Request) : (run {} requests).Single := by
  induction requests using List.reverseRecOn with
  | nil => exact fun _ => Nat.zero_le 1
  | append_singleton earlier latest ih => exact run_append {} earlier latest ▸ ih.step latest

/-! ## The handler that writes -/

/-- Behind a request that switched logging on in this setup there are only requests for
loggers. -/
def InForce (setup : Setup) (requests : List Request) : Prop :=
  ∃ before, ∃ asked : List (Option Text),
    requests = before ++ .configure setup :: asked.map .logger

theorem not_inForce_nil (setup : Setup) : ¬InForce setup [] := by
  rintro ⟨before, asked, whole⟩
  simp at whole

theorem inForce_append_iff {setup : Setup} {earlier : List Request} {latest : Request} :
    InForce setup (earlier ++ [latest]) ↔
      latest = .configure setup ∨ (∃ asked, latest = .logger asked) ∧ InForce setup earlier := by
  constructor
  · rintro ⟨before, asked, whole⟩
    -- The latest request is the last one for a logger, or the switch itself.
    induction asked using List.reverseRecOn with
    | nil => exact Or.inl (List.cons.inj (List.append_inj' whole rfl).2).1
    | append_singleton asked last _ =>
        rw [List.map_append, ← List.cons_append, ← List.append_assoc] at whole
        obtain ⟨same, isLast⟩ := List.append_inj' whole rfl
        exact Or.inr ⟨⟨last, (List.cons.inj isLast).1⟩, before, asked, same⟩
  · rintro (rfl | ⟨⟨asked, rfl⟩, before, others, rfl⟩)
    · exact ⟨earlier, [], rfl⟩
    · exact ⟨before, others ++ [asked], by simp⟩

/-- Asking for a logger brings in no handler that writes and takes none away. -/
theorem stream_mem_request_iff {asked : Option Text} {name : Text} {setup : Setup} :
    .stream setup ∈ ((r.request asked).logger name).handlers ↔
      .stream setup ∈ (r.logger name).handlers := by
  rcases logger_request r asked name with ⟨given, bare⟩ | ⟨kept, -⟩
  · simp [given, bare]
  · rw [kept]

/-- The handlers that write are those of the root, in the setup that is in force. -/
theorem stream_mem_run_iff {requests : List Request} {name : Text} {setup : Setup} :
    .stream setup ∈ ((run {} requests).logger name).handlers ↔
      name = rootName ∧ InForce setup requests := by
  induction requests using List.reverseRecOn with
  | nil => exact iff_of_false List.not_mem_nil fun both => not_inForce_nil setup both.2
  | append_singleton earlier latest ih =>
      rw [run_append, inForce_append_iff]
      cases latest with
      | logger asked => simp [step, stream_mem_request_iff, ih]
      | configure setup =>
          -- What the root had before is gone; no other logger had a handler that writes.
          rw [step, logger_configure]
          split
          · rename_i isRoot
            simp [isRoot, eq_comm]
          · rename_i notRoot
            simp [ih, notRoot]
      | disable =>
          rw [step, logger_disable]
          split
          · simp
          · rename_i notRoot
            simp [ih, notRoot]

/-- Logging is on exactly while a setup is in force. -/
theorem configured_run_iff {requests : List Request} :
    (run {} requests).configured = true ↔ ∃ setup, InForce setup requests := by
  induction requests using List.reverseRecOn with
  | nil => exact iff_of_false Bool.false_ne_true fun ⟨setup, last⟩ => not_inForce_nil setup last
  | append_singleton earlier latest ih =>
      simp only [run_append, inForce_append_iff]
      cases latest with
      | logger asked =>
          have kept : ((run {} earlier).request asked).configured =
              (run {} earlier).configured := rfl
          simp [step, kept, ih]
      | configure setup => simp [step, configure]
      | disable => simp [step, disable]

/-! ## What is written -/

theorem ancestors_rootName : ancestors rootName = [] := by
  rw [ancestors, namesAbove]
  rfl

theorem isPrefix_reached (loggers : List Logger) : reached loggers <+: loggers := by
  induction loggers with
  | nil => exact List.prefix_rfl
  | cons logger rest ih =>
      rw [reached]
      split
      · exact (List.prefix_cons_inj logger).mpr ih
      · exact List.prefix_append [logger] rest

theorem stream_mem_of_mem_shows {logger : Logger} {level : Level} {setup : Setup}
    (shown : setup ∈ logger.shows level) : .stream setup ∈ logger.handlers := by
  obtain ⟨handler, member, shows⟩ := List.mem_filterMap.mp shown
  cases handler with
  | silent => cases shows
  | stream other =>
      rw [Handler.shows?] at shows
      split at shows
      · exact Option.some.inj shows ▸ member
      · cases shows

/-- No logger but the root has a handler that writes. -/
def WritesAtRoot (r : Registry) : Prop :=
  ∀ name setup, .stream setup ∈ (r.logger name).handlers → name = rootName

theorem writesAtRoot_run (requests : List Request) : (run {} requests).WritesAtRoot :=
  fun _ _ writes => (stream_mem_run_iff.mp writes).1

/-- The root is the last logger of each lineage that it belongs to, so a lineage shows a
record once at most. -/
theorem WritesAtRoot.isPrefix_shows_lineage (atRoot : r.WritesAtRoot) (name : Text)
    (level : Level) : (r.lineage name).flatMap (·.shows level) <+: r.root.shows level := by
  have silent (name : Text) (notRoot : name ≠ rootName) : (r.logger name).shows level = [] := by
    rw [List.eq_nil_iff_forall_not_mem]
    intro setup shown
    exact notRoot (atRoot name setup (stream_mem_of_mem_shows shown))
  fun_induction lineage r name with
  | case1 name above found ih =>
      have notRoot : name ≠ rootName := by
        rintro rfl
        rw [parentName?, ancestors_rootName] at found
        cases found
      rw [List.flatMap_cons, silent name notRoot]
      exact ih
  | case2 name top =>
      rw [List.flatMap_singleton]
      by_cases isRoot : name = rootName
      · exact isRoot ▸ List.prefix_rfl
      · exact silent name isRoot ▸ List.nil_prefix

theorem WritesAtRoot.isPrefix_streams (atRoot : r.WritesAtRoot) (record : Record) :
    r.streams record <+: r.root.shows record.level := by
  rw [streams]
  split
  · have onWay := (isPrefix_reached (r.lineage record.logger)).flatMap (·.shows record.level)
    exact onWay.trans (atRoot.isPrefix_shows_lineage record.logger record.level)
  · exact List.nil_prefix

/-- After any requests to a fresh registry no logger has two handlers. A handler that
writes is one of the root, in the setup of the latest request to switch logging on, and
there is one exactly while logging is on. Every record leads to one line at most, and the
line goes where that setup says. -/
theorem handlers_of_run (requests : List Request) :
    let r := run {} requests
    (∀ name, (r.logger name).handlers.length ≤ 1) ∧
      (∀ name setup, .stream setup ∈ (r.logger name).handlers ↔
        name = rootName ∧ InForce setup requests) ∧
      (r.configured = true ↔ ∃ setup, .stream setup ∈ r.root.handlers) ∧
      ∀ env terminal around record,
        (r.lines env terminal around record).length ≤ 1 ∧
          ∀ line ∈ r.lines env terminal around record,
            ∃ setup, InForce setup requests ∧ line.sink = setup.sink := by
  intro r
  refine ⟨single_run requests, fun _ _ => stream_mem_run_iff, ?_, ?_⟩
  · have ofRoot (setup : Setup) : .stream setup ∈ r.root.handlers ↔ InForce setup requests :=
      stream_mem_run_iff.trans (and_iff_right rfl)
    simp only [ofRoot]
    exact configured_run_iff
  · intro env terminal around record
    have shown := (writesAtRoot_run requests).isPrefix_streams record
    constructor
    · calc (r.lines env terminal around record).length
          = (r.streams record).length := List.length_map _
        _ ≤ (r.root.shows record.level).length := shown.length_le
        _ ≤ r.root.handlers.length := List.length_filterMap_le _ _
        _ ≤ 1 := single_run requests rootName
    · intro line member
      obtain ⟨setup, shows, rfl⟩ := List.mem_map.mp member
      have writes := stream_mem_of_mem_shows (shown.subset shows)
      exact ⟨setup, (stream_mem_run_iff.mp writes).2, rfl⟩

/-! ## Every record is heard -/

/-- A logger without handlers has another one above it and passes its records on. -/
structure Heard (r : Registry) : Prop where
  passesOn : ∀ name, (r.logger name).handlers = [] → (r.logger name).passesOn = true
  hasParent : ∀ name, (r.find? name).isSome → (r.logger name).handlers = [] →
    (r.parentName? name).isSome

theorem isSome_find?_step {request : Request} {name : Text} :
    ((r.step request).find? name).isSome ↔ (r.find? name).isSome ∨ name = request.target := by
  obtain ⟨logger, found⟩ := find?_step r request
  rw [found]
  split
  · rename_i same
    simp [same]
  · rename_i differs
    simp [differs]

theorem isSome_parentName?_step {request : Request} {name : Text}
    (below : (r.parentName? name).isSome) : ((r.step request).parentName? name).isSome := by
  obtain ⟨above, member, found⟩ := List.find?_isSome.mp below
  exact List.find?_isSome.mpr ⟨above, member, isSome_find?_step.mpr (Or.inl found)⟩

theorem Heard.step (heard : r.Heard) (request : Request) : (r.step request).Heard where
  passesOn name bare := by
    rcases logger_step r request name with ⟨handler, one⟩ | ⟨kept, -⟩
    · exact absurd (one.symm.trans bare) (List.cons_ne_nil _ _)
    · rw [kept] at bare ⊢
      exact heard.passesOn name bare
  hasParent name exist bare := by
    rcases logger_step r request name with ⟨handler, one⟩ | ⟨kept, accompanied⟩
    · exact absurd (one.symm.trans bare) (List.cons_ne_nil _ _)
    · rw [kept] at bare
      apply isSome_parentName?_step
      rcases isSome_find?_step.mp exist with existed | isTarget
      · exact heard.hasParent name existed bare
      · exact accompanied isTarget bare

theorem heard_run (requests : List Request) : (run {} requests).Heard := by
  induction requests using List.reverseRecOn with
  | nil => exact ⟨fun _ _ => rfl, nofun⟩
  | append_singleton earlier latest ih => exact run_append {} earlier latest ▸ ih.step latest

theorem mem_reached_cons (logger : Logger) (rest : List Logger) :
    logger ∈ reached (logger :: rest) := by
  rw [reached]
  split <;> exact List.mem_cons_self

/-- A record of an existing logger gets to a logger with a handler, so none is left to
whatever takes records without one. -/
theorem Heard.exists_handler_reached (heard : r.Heard) {name : Text}
    (exist : (r.find? name).isSome) :
    ∃ logger ∈ reached (r.lineage name), logger.handlers ≠ [] := by
  fun_induction lineage r name with
  | case1 name above found ih =>
      by_cases bare : (r.logger name).handlers = []
      · have aboveExists : (r.find? above).isSome := by
          simpa using List.find?_some found
        obtain ⟨logger, member, filled⟩ := ih aboveExists
        rw [reached, if_pos (heard.passesOn name bare)]
        exact ⟨logger, List.mem_cons_of_mem _ member, filled⟩
      · exact ⟨r.logger name, mem_reached_cons _ _, bare⟩
  | case2 name top =>
      refine ⟨r.logger name, mem_reached_cons _ _, fun bare => ?_⟩
      have hasParent := heard.hasParent name exist bare
      rw [top] at hasParent
      cases hasParent

/-- After any requests to a fresh registry some handler gets each record of a logger that
was asked for. -/
theorem exists_handler_reached_run (requests : List Request) {name : Text}
    (exist : ((run {} requests).find? name).isSome) :
    ∃ logger ∈ reached ((run {} requests).lineage name), logger.handlers ≠ [] :=
  (heard_run requests).exists_handler_reached exist

end NamespaceScan.Log.Registry
