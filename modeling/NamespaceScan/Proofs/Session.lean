import Mathlib.Data.List.Induction
import NamespaceScan.Extractor
import NamespaceScan.Proofs.Extraction

/-!
# Runs of an extractor

A session never writes to a set of a result, and its table leads to the sets of the
extractor at all times. By this invariant a session on shared sets finds what the
extraction finds that is passed on as a value, and a result keeps what it held when it
was given.

`Extraction.Seen` says without running anything which nodes a sequence of actions takes
into account: those that were shown by an action after which nothing was forgotten.
-/

namespace NamespaceScan

/-! ## Actions on an extraction -/

namespace Extraction

namespace Step

/-- The action shows the node to the extractor. -/
inductive Shows : Step → Node → Prop where
  | visit (n : Node) : Shows (.visit n) n
  | extract {tree n : Node} (contained : tree.Contains n) : Shows (.extract tree) n

/-- The action makes the extractor forget what it found before. -/
inductive Forgets : Step → Prop where
  | extract (tree : Node) : Forgets (.extract tree)
  | reset : Forgets .reset

/-- The action gives a result. -/
inductive Gives : Step → Prop where
  | extract (tree : Node) : Gives (.extract tree)
  | inspect : Gives .inspect

theorem shows_visit_iff {m n : Node} : (Step.visit m).Shows n ↔ n = m := by
  constructor
  · rintro ⟨⟩
    rfl
  · rintro rfl
    exact Shows.visit n

theorem shows_extract_iff {tree n : Node} : (Step.extract tree).Shows n ↔ tree.Contains n := by
  constructor
  · rintro ⟨⟩
    assumption
  · exact Shows.extract

end Step

/-- The nodes that count after a sequence of actions: an action showed them, and no
later action made the extractor forget. -/
def Seen (steps : List Step) (n : Node) : Prop :=
  ∃ front step back, steps = front ++ step :: back ∧ step.Shows n ∧
    ∀ later ∈ back, ¬later.Forgets

theorem not_seen_nil (n : Node) : ¬Seen [] n := by
  rintro ⟨front, step, back, split, -⟩
  simp at split

theorem seen_concat_iff {steps : List Step} {step : Step} {n : Node} :
    Seen (steps ++ [step]) n ↔ step.Shows n ∨ ¬step.Forgets ∧ Seen steps n := by
  constructor
  · rintro ⟨front, shown, back, split, shows, kept⟩
    rcases List.eq_nil_or_concat back with rfl | ⟨back, last, rfl⟩
    · obtain ⟨-, same⟩ := List.append_inj' split rfl
      cases same
      exact Or.inl shows
    · rw [List.concat_eq_append, ← List.cons_append, ← List.append_assoc] at split
      obtain ⟨rfl, same⟩ := List.append_inj' split rfl
      cases same
      refine Or.inr ⟨kept step (by simp), front, shown, back, rfl, shows, ?_⟩
      intro later member
      exact kept later (by simp [member])
  · rintro (shows | ⟨keeps, front, shown, back, rfl, shows, kept⟩)
    · exact ⟨steps, step, [], rfl, shows, by simp⟩
    · refine ⟨front, shown, back ++ [step], by simp, shows, ?_⟩
      intro later member
      rcases List.mem_append.mp member with early | last
      · exact kept later early
      · cases List.mem_singleton.mp last
        exact keeps

theorem ext_names {e e' : Extraction} (same : ∀ role, e.names role = e'.names role) : e = e' := by
  rcases e with ⟨provides, requires⟩
  rcases e' with ⟨provides', requires'⟩
  have sameProvides : provides = provides' := same .provide
  have sameRequires : requires = requires' := same .require
  rw [sameProvides, sameRequires]

/-- One action adds what the shown nodes contribute to what is not forgotten. -/
theorem mem_names_apply_iff {e : Extraction} {step : Step} {role : Role} {s : Text} :
    s ∈ (e.apply step).names role ↔
      (∃ n, step.Shows n ∧ n.Calls role.callee s) ∨ ¬step.Forgets ∧ s ∈ e.names role := by
  cases step with
  | visit m =>
      have keeps : ¬(Step.visit m).Forgets := nofun
      simp only [apply, mem_names_visit_iff, Step.shows_visit_iff, exists_eq_left, keeps,
        not_false_eq_true, true_and]
  | extract tree =>
      have forgets := Step.Forgets.extract tree
      simp only [apply, mem_names_ofTree_iff, Step.shows_extract_iff, forgets, not_true,
        false_and, or_false]
  | reset =>
      have nothing : ∀ n, ¬Step.reset.Shows n := nofun
      simp [apply, nothing, Step.Forgets.reset]
  | inspect =>
      have nothing : ∀ n, ¬Step.inspect.Shows n := nofun
      have keeps : ¬Step.inspect.Forgets := nofun
      simp [apply, nothing, keeps]

/-- A run finds what the nodes contribute that count after it. -/
theorem mem_names_run_iff (steps : List Step) (role : Role) (s : Text) :
    s ∈ ((∅ : Extraction).run steps).names role ↔
      ∃ n, Seen steps n ∧ n.Calls role.callee s := by
  induction steps using List.reverseRecOn with
  | nil => simp [run, not_seen_nil]
  | append_singleton steps step ih =>
      rw [run, List.foldl_append, List.foldl_cons, List.foldl_nil, mem_names_apply_iff, ← run, ih]
      simp only [seen_concat_iff]
      constructor
      · rintro (⟨n, shows, calls⟩ | ⟨keeps, n, seen, calls⟩)
        · exact ⟨n, Or.inl shows, calls⟩
        · exact ⟨n, Or.inr ⟨keeps, seen⟩, calls⟩
      · rintro ⟨n, shows | ⟨keeps, seen⟩, calls⟩
        · exact Or.inl ⟨n, shows, calls⟩
        · exact Or.inr ⟨keeps, n, seen, calls⟩

/-- Neither the order of visits nor their repetition shows. -/
theorem run_visits_congr (e : Extraction) {nodes nodes' : List Node}
    (same : ∀ n, n ∈ nodes ↔ n ∈ nodes') :
    e.run (nodes.map .visit) = e.run (nodes'.map .visit) := by
  refine ext_names fun role => OrderedSet.ext_mem fun s => ?_
  simp only [run, List.foldl_map]
  change s ∈ (nodes.foldl visit e).names role ↔ s ∈ (nodes'.foldl visit e).names role
  simp only [mem_names_foldl_visit_iff, same]

end Extraction

/-! ## Sets in a store -/

namespace Store

@[simp]
theorem size_change (f : Names → Names) (place : Place) (store : Store) :
    (store.change f place).size = store.size := by
  simp [change, size]

@[simp]
theorem size_copy (place : Place) (store : Store) : (store.copy place).size = store.size + 1 := by
  simp [copy, size]

theorem read_change_self (f : Names → Names) {place : Place} {store : Store}
    (allocated : place < store.size) :
    (store.change f place).read place = f (store.read place) := by
  simp only [read, change, List.getElem?_modify_eq, List.getElem?_eq_getElem allocated]
  rfl

theorem read_change_of_ne (f : Names → Names) {place other : Place} (store : Store)
    (different : other ≠ place) : (store.change f place).read other = store.read other := by
  simp [read, change, different.symm]

theorem read_copy_of_lt (place : Place) {other : Place} {store : Store}
    (allocated : other < store.size) : (store.copy place).read other = store.read other := by
  simp only [read, copy, List.getElem?_append_left allocated]

theorem read_copy_size (place : Place) (store : Store) :
    (store.copy place).read store.size = store.read place := by
  simp [read, copy, size]

end Store

@[simp]
theorem Holding.names_contents (holding : Holding) (store : Store) (role : Role) :
    (holding.contents store).names role = store.read (holding.place role) := by
  cases role <;> rfl

/-! ## One extractor -/

namespace Extractor

/-- The table leads to the sets of the extractor, and these are two. -/
structure Linked (x : Extractor) : Prop where
  lookup : ∀ name, x.targets.lookup name = (Role.ofCallee? name).map x.sets.place
  apart : x.sets.provides ≠ x.sets.requires

theorem linked_ofSets {sets : Holding} (apart : sets.provides ≠ sets.requires) :
    (ofSets sets).Linked where
  lookup name := by
    simp only [ofSets, List.lookup_cons, List.lookup_nil, Role.ofCallee?]
    by_cases isProvide : name = Role.provide.callee
    · simp [isProvide, Holding.place]
    · have notProvide : (name == Role.provide.callee) = false := beq_eq_false_iff_ne.mpr isProvide
      by_cases isRequire : name = Role.require.callee
      · rw [isRequire]
        rfl
      · have notRequire : (name == Role.require.callee) = false :=
          beq_eq_false_iff_ne.mpr isRequire
        simp [notProvide, notRequire, isProvide, isRequire]
  apart := apart

theorem Linked.place_ne {x : Extractor} (linked : x.Linked) {role other : Role}
    (different : other ≠ role) : x.sets.place other ≠ x.sets.place role := by
  cases role <;> cases other
  · exact absurd rfl different
  · exact linked.apart.symm
  · exact linked.apart
  · exact absurd rfl different

theorem Linked.visit_eq {x : Extractor} (linked : x.Linked) (store : Store) (n : Node) :
    x.visit store n =
      match n.contribution? with
      | none => store
      | some (role, value) =>
          store.change (fun names => names.insert value) (x.sets.place role) := by
  rw [visit, Node.contribution?]
  cases n.literalCall? with
  | none => rfl
  | some call =>
      simp only [linked.lookup, Option.bind_some]
      cases Role.ofCallee? call.1 <;> rfl

/-! ### What an extractor changes -/

/-- Two stores have the same places and differ in the sets of the extractor at most. -/
structure Spares (x : Extractor) (before after : Store) : Prop where
  size : after.size = before.size
  others : ∀ place, (∀ role, place ≠ x.sets.place role) → after.read place = before.read place

theorem Spares.refl (x : Extractor) (store : Store) : x.Spares store store :=
  ⟨rfl, fun _ _ => rfl⟩

theorem Spares.trans {x : Extractor} {before middle after : Store}
    (first : x.Spares before middle) (second : x.Spares middle after) : x.Spares before after where
  size := second.size.trans first.size
  others place foreign := (second.others place foreign).trans (first.others place foreign)

theorem spares_change (x : Extractor) (store : Store) (f : Names → Names) (role : Role) :
    x.Spares store (store.change f (x.sets.place role)) where
  size := Store.size_change f _ store
  others _ foreign := Store.read_change_of_ne f store (foreign role)

theorem Linked.spares_visit {x : Extractor} (linked : x.Linked) (store : Store) (n : Node) :
    x.Spares store (x.visit store n) := by
  rw [linked.visit_eq]
  split
  · exact Spares.refl x store
  · exact spares_change x store _ _

theorem spares_reset (x : Extractor) (store : Store) : x.Spares store (x.reset store) :=
  (spares_change x store _ .provide).trans (spares_change x _ _ .require)

theorem Linked.spares_visits {x : Extractor} (linked : x.Linked) (store : Store)
    (nodes : List Node) : x.Spares store (nodes.foldl x.visit store) := by
  induction nodes generalizing store with
  | nil => exact Spares.refl x store
  | cons n rest ih => exact (linked.spares_visit store n).trans (ih (x.visit store n))

theorem Linked.spares_extract {x : Extractor} (linked : x.Linked) (store : Store) (tree : Node) :
    x.Spares store (x.extract store tree) :=
  (spares_reset x store).trans (linked.spares_visits _ _)

end Extractor

/-- Both places exist. -/
def Holding.Allocated (holding : Holding) (store : Store) : Prop :=
  ∀ role, holding.place role < store.size

theorem Holding.Allocated.of_spares {x : Extractor} {holding : Holding} {before after : Store}
    (allocated : holding.Allocated before) (spares : x.Spares before after) :
    holding.Allocated after := by
  intro role
  rw [spares.size]
  exact allocated role

/-! ### What an extractor finds -/

namespace Extractor

theorem Linked.names_change {x : Extractor} (linked : x.Linked) {store : Store}
    (allocated : x.sets.Allocated store) (f : Names → Names) (role other : Role) :
    (x.sets.contents (store.change f (x.sets.place role))).names other =
      if other = role then f ((x.sets.contents store).names role)
      else (x.sets.contents store).names other := by
  simp only [Holding.names_contents]
  split
  · rename_i same
    rw [same, Store.read_change_self f (allocated role)]
  · rename_i different
    exact Store.read_change_of_ne f store (linked.place_ne different)

theorem Linked.contents_visit {x : Extractor} (linked : x.Linked) {store : Store}
    (allocated : x.sets.Allocated store) (n : Node) :
    x.sets.contents (x.visit store n) = (x.sets.contents store).visit n := by
  rw [linked.visit_eq, Extraction.visit]
  cases n.contribution? with
  | none => rfl
  | some found =>
      refine Extraction.ext_names fun other => ?_
      rcases found with ⟨role, value⟩
      rw [linked.names_change allocated]
      cases role <;> cases other <;> rfl

theorem Linked.contents_reset {x : Extractor} (linked : x.Linked) {store : Store}
    (allocated : x.sets.Allocated store) : x.sets.contents (x.reset store) = ∅ := by
  have still := allocated.of_spares (spares_change x store (fun _ => ∅) .provide)
  refine Extraction.ext_names fun role => ?_
  have emptied := linked.names_change still (fun _ => ∅) .require role
  rw [linked.names_change allocated (fun _ => ∅) .provide role] at emptied
  refine emptied.trans ?_
  cases role <;> rfl

theorem Linked.contents_visits {x : Extractor} (linked : x.Linked) {store : Store}
    (allocated : x.sets.Allocated store) (nodes : List Node) :
    x.sets.contents (nodes.foldl x.visit store) =
      nodes.foldl Extraction.visit (x.sets.contents store) := by
  induction nodes generalizing store with
  | nil => rfl
  | cons n rest ih =>
      rw [List.foldl_cons, ih (allocated.of_spares (linked.spares_visit store n)),
        linked.contents_visit allocated, List.foldl_cons]

theorem Linked.contents_extract {x : Extractor} (linked : x.Linked) {store : Store}
    (allocated : x.sets.Allocated store) (tree : Node) :
    x.sets.contents (x.extract store tree) = Extraction.ofTree tree := by
  rw [extract, linked.contents_visits (allocated.of_spares (spares_reset x store)),
    linked.contents_reset allocated, Extraction.ofTree]

end Extractor

/-! ## Sessions -/

namespace Session

open Extraction (Step Seen)

/-- The extractor has two sets that its table leads to, and no result shares them. -/
structure Sound (s : Session) : Prop where
  linked : s.extractor.Linked
  allocated : s.extractor.sets.Allocated s.store
  kept : ∀ result ∈ s.results, result.Allocated s.store
  foreign : ∀ result ∈ s.results, ∀ role own, result.place role ≠ s.extractor.sets.place own

theorem sound_start : start.Sound where
  linked := Extractor.linked_ofSets (by decide)
  allocated := by
    intro role
    cases role <;> decide
  kept := by
    intro result member
    cases member
  foreign := by
    intro result member
    cases member

/-! ### One action -/

/-- An action on the sets of the extractor only. -/
theorem Sound.of_spares {s : Session} (sound : s.Sound) {store : Store}
    (spares : s.extractor.Spares s.store store) : { s with store }.Sound where
  linked := sound.linked
  allocated := sound.allocated.of_spares spares
  kept result member := (sound.kept result member).of_spares spares
  foreign := sound.foreign

theorem size_store_give (s : Session) : s.give.store.size = s.store.size + 2 := by
  simp [give]

theorem read_give_of_lt (s : Session) {place : Place} (allocated : place < s.store.size) :
    s.give.store.read place = s.store.read place := by
  have still : place < (s.store.copy s.extractor.sets.provides).size := by
    rw [Store.size_copy]
    exact Nat.lt_succ_of_lt allocated
  rw [give, Store.read_copy_of_lt _ still, Store.read_copy_of_lt _ allocated]

theorem contents_give_of_allocated (s : Session) {holding : Holding}
    (allocated : holding.Allocated s.store) :
    holding.contents s.give.store = holding.contents s.store := by
  refine Extraction.ext_names fun role => ?_
  simp only [Holding.names_contents]
  exact read_give_of_lt s (allocated role)

theorem Sound.contents_give {s : Session} (sound : s.Sound) : s.give.contents = s.contents :=
  contents_give_of_allocated s sound.allocated

/-- A result holds what the extractor has found. -/
theorem Sound.contents_given {s : Session} (sound : s.Sound) :
    Holding.contents ⟨s.store.size, s.store.size + 1⟩ s.give.store = s.contents := by
  refine Extraction.ext_names fun role => ?_
  rw [contents, Holding.names_contents, Holding.names_contents]
  cases role with
  | provide =>
      change s.give.store.read s.store.size = _
      rw [give, Store.read_copy_of_lt _ (by simp), Store.read_copy_size]
      rfl
  | require =>
      change s.give.store.read (s.store.size + 1) = _
      have next : s.store.size + 1 = (s.store.copy s.extractor.sets.provides).size :=
        (Store.size_copy _ _).symm
      rw [give, next, Store.read_copy_size]
      exact Store.read_copy_of_lt _ (sound.allocated .require)

theorem Sound.give {s : Session} (sound : s.Sound) : s.give.Sound where
  linked := sound.linked
  allocated role := by
    have allocated := sound.allocated role
    rw [size_store_give]
    exact Nat.lt_add_right 2 allocated
  kept result member := by
    intro role
    rw [size_store_give]
    rcases List.mem_append.mp member with old | new
    · exact Nat.lt_add_right 2 (sound.kept result old role)
    · cases List.mem_singleton.mp new
      cases role <;> simp [Holding.place]
  foreign result member := by
    intro role own
    rcases List.mem_append.mp member with old | new
    · exact sound.foreign result old role own
    · have allocated := sound.allocated own
      cases List.mem_singleton.mp new
      cases role with
      | provide => exact Nat.ne_of_gt allocated
      | require => exact Nat.ne_of_gt (Nat.lt_succ_of_lt allocated)

theorem Sound.apply {s : Session} (sound : s.Sound) (step : Step) : (s.apply step).Sound := by
  cases step with
  | visit n => exact sound.of_spares (sound.linked.spares_visit s.store n)
  | extract tree => exact (sound.of_spares (sound.linked.spares_extract s.store tree)).give
  | reset => exact sound.of_spares (Extractor.spares_reset s.extractor s.store)
  | inspect => exact sound.give

/-- An action on shared sets finds what it finds on an extraction that is a value. -/
theorem Sound.contents_apply {s : Session} (sound : s.Sound) (step : Step) :
    (s.apply step).contents = s.contents.apply step := by
  cases step with
  | visit n => exact sound.linked.contents_visit sound.allocated n
  | extract tree =>
      have extracted := sound.of_spares (sound.linked.spares_extract s.store tree)
      exact extracted.contents_give.trans (sound.linked.contents_extract sound.allocated tree)
  | reset => exact sound.linked.contents_reset sound.allocated
  | inspect => exact sound.contents_give

/-- Writing to the sets of the extractor leaves the results alone. -/
theorem Sound.contents_of_spares {s : Session} (sound : s.Sound) {store : Store}
    (spares : s.extractor.Spares s.store store) {result : Holding} (member : result ∈ s.results) :
    result.contents store = result.contents s.store := by
  refine Extraction.ext_names fun role => ?_
  simp only [Holding.names_contents]
  exact spares.others _ (sound.foreign result member role)

/-- No action changes what a result holds. -/
theorem Sound.result_apply {s : Session} (sound : s.Sound) (step : Step) {result : Holding}
    (member : result ∈ s.results) :
    result.contents (s.apply step).store = result.contents s.store := by
  cases step with
  | visit n => exact sound.contents_of_spares (sound.linked.spares_visit s.store n) member
  | extract tree =>
      have spares := sound.linked.spares_extract s.store tree
      exact (contents_give_of_allocated _ ((sound.kept result member).of_spares spares)).trans
        (sound.contents_of_spares spares member)
  | reset => exact sound.contents_of_spares (Extractor.spares_reset s.extractor s.store) member
  | inspect => exact contents_give_of_allocated s (sound.kept result member)

/-- An action that gives a result adds it behind the others, and the result holds what
the extractor has found. -/
theorem Sound.given_apply {s : Session} (sound : s.Sound) {step : Step} (gives : step.Gives) :
    ∃ result, (s.apply step).results = s.results ++ [result] ∧
      result.contents (s.apply step).store = (s.apply step).contents := by
  cases gives with
  | extract tree =>
      have extracted := sound.of_spares (sound.linked.spares_extract s.store tree)
      exact ⟨_, rfl, extracted.contents_given.trans extracted.contents_give.symm⟩
  | inspect => exact ⟨_, rfl, sound.contents_given.trans sound.contents_give.symm⟩

theorem results_prefix_apply (s : Session) (step : Step) :
    s.results <+: (s.apply step).results := by
  cases step with
  | visit n => exact List.prefix_rfl
  | extract tree => exact List.prefix_append _ _
  | reset => exact List.prefix_rfl
  | inspect => exact List.prefix_append _ _

/-! ### Runs -/

theorem run_append (s : Session) (front back : List Step) :
    s.run (front ++ back) = (s.run front).run back :=
  List.foldl_append

theorem Sound.run {s : Session} (sound : s.Sound) (steps : List Step) : (s.run steps).Sound := by
  induction steps generalizing s with
  | nil => exact sound
  | cons step rest ih => exact ih (sound.apply step)

theorem Sound.contents_run {s : Session} (sound : s.Sound) (steps : List Step) :
    (s.run steps).contents = s.contents.run steps := by
  induction steps generalizing s with
  | nil => rfl
  | cons step rest ih =>
      change ((s.apply step).run rest).contents = (s.contents.apply step).run rest
      rw [ih (sound.apply step), sound.contents_apply]

/-- After every single action both have found the same. -/
theorem Sound.states_eq {s : Session} (sound : s.Sound) (steps : List Step) :
    s.states steps = s.contents.states steps := by
  induction steps generalizing s with
  | nil => rfl
  | cons step rest ih =>
      rw [states, Extraction.states, ih (sound.apply step), sound.contents_apply]

theorem results_prefix_run (s : Session) (steps : List Step) :
    s.results <+: (s.run steps).results := by
  induction steps generalizing s with
  | nil => exact List.prefix_rfl
  | cons step rest ih => exact (results_prefix_apply s step).trans (ih (s.apply step))

theorem Sound.result_run {s : Session} (sound : s.Sound) (steps : List Step) {result : Holding}
    (member : result ∈ s.results) :
    result.contents (s.run steps).store = result.contents s.store := by
  induction steps generalizing s with
  | nil => rfl
  | cons step rest ih =>
      have still := (results_prefix_apply s step).subset member
      exact (ih (sound.apply step) still).trans (sound.result_apply step member)

/-- A result that was given in a run holds at its end what the extractor had found when
it was given. -/
theorem Sound.given_run {s : Session} (sound : s.Sound) {step : Step} (gives : step.Gives)
    (back : List Step) :
    ∃ result, (s.run (step :: back)).results[s.results.length]? = some result ∧
      result.contents (s.run (step :: back)).store = (s.apply step).contents := by
  obtain ⟨result, given, holds⟩ := sound.given_apply gives
  have member : result ∈ (s.apply step).results := by simp [given]
  refine ⟨result, ?_, ?_⟩
  · obtain ⟨more, later⟩ := results_prefix_run (s.apply step) back
    change ((s.apply step).run back).results[_]? = _
    rw [← later, given]
    simp
  · exact ((sound.apply step).result_run back member).trans holds

theorem contents_start : start.contents = ∅ :=
  rfl

/-- What a new extractor has found after any sequence of actions are the first arguments
of the recognised calls among the nodes that were shown and not forgotten. A result
keeps what the extractor had found when it was given, whatever follows. Visits that
show the same nodes lead to the same sets. -/
theorem contents_of_run :
    (∀ (steps : List Step) (s : Text),
      (s ∈ (start.run steps).contents.provides ↔
          ∃ n, Seen steps n ∧ n.Calls "goog.provide" s) ∧
        (s ∈ (start.run steps).contents.requires ↔
          ∃ n, Seen steps n ∧ n.Calls "goog.require" s)) ∧
      (∀ (front : List Step) (step : Step) (back : List Step), step.Gives →
        ∃ result,
          (start.run (front ++ step :: back)).results[(start.run front).results.length]? =
              some result ∧
            result.contents (start.run (front ++ step :: back)).store =
              (start.run (front ++ [step])).contents) ∧
      ∀ (steps : List Step) (nodes nodes' : List Node), (∀ n, n ∈ nodes ↔ n ∈ nodes') →
        (start.run (steps ++ nodes.map .visit)).contents =
          (start.run (steps ++ nodes'.map .visit)).contents := by
  refine ⟨?_, ?_, ?_⟩
  · intro steps s
    rw [sound_start.contents_run, contents_start]
    exact ⟨Extraction.mem_names_run_iff steps .provide s,
      Extraction.mem_names_run_iff steps .require s⟩
  · intro front step back gives
    rw [run_append, run_append]
    exact (sound_start.run front).given_run gives back
  · intro steps nodes nodes' same
    rw [run_append, run_append, (sound_start.run steps).contents_run,
      (sound_start.run steps).contents_run]
    exact Extraction.run_visits_congr _ same

/-- A call that provides a namespace. -/
def provision (name : Text) : Node :=
  Node.ofCall (Node.ofDotted "goog.provide") [Node.ofValue name]

theorem calls_provision (name : Text) : (provision name).Calls "goog.provide" name :=
  ⟨rfl, _, _, _, rfl, by decide, rfl, rfl⟩

theorem contents_of_run_provision :
    ("b" : Text) ∈
        (start.run [.visit (provision "a"), .reset, .visit (provision "b")]).contents.provides ∧
      (∃ result,
        (start.run ([.visit (provision "a")] ++ .inspect :: [.reset])).results[
              (start.run [.visit (provision "a")]).results.length]? = some result ∧
          result.contents (start.run ([.visit (provision "a")] ++ .inspect :: [.reset])).store =
            (start.run ([.visit (provision "a")] ++ [.inspect])).contents) ∧
      (start.run ([.reset] ++ [provision "a", provision "b", provision "a"].map .visit)).contents =
        (start.run ([.reset] ++ [provision "b", provision "a"].map .visit)).contents := by
  refine ⟨?_, contents_of_run.2.1 _ _ _ Step.Gives.inspect, contents_of_run.2.2 _ _ _ ?_⟩
  · refine (contents_of_run.1 _ _).1.mpr ⟨provision "b", ?_, calls_provision "b"⟩
    exact ⟨[.visit (provision "a"), .reset], _, [], rfl, .visit _, nofun⟩
  · intro n
    simp only [List.mem_cons, List.not_mem_nil, or_false]
    constructor
    · rintro (first | second | third)
      · exact Or.inr first
      · exact Or.inl second
      · exact Or.inr third
    · rintro (second | first)
      · exact Or.inr (Or.inl second)
      · exact Or.inl first

end Session

end NamespaceScan
