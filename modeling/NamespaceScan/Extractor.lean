import NamespaceScan.Extraction

/-!
# Extractors

An extractor keeps the namespaces that it found in two sets. A table leads from
the dotted name of a callee to the set that takes the argument of the call. The
table shares its sets with the extractor, so a set that was to be emptied must
not be replaced by another one. For this reason sets stand in a store, and what
is shared is their place.

A result holds copies of both sets, at places of its own.
-/

namespace NamespaceScan

/-- Where a set stands. -/
abbrev Place := Nat

/-- The sets of namespaces that exist, by place. -/
structure Store where
  sets : List Names

namespace Store

/-- How many places there are. -/
def size (store : Store) : Nat := store.sets.length

/-- What the set at a place holds. -/
def read (store : Store) (place : Place) : Names := store.sets[place]?.getD ∅

/-- Change the set at a place. -/
def change (f : Names → Names) (place : Place) (store : Store) : Store :=
  ⟨store.sets.modify place f⟩

/-- Copy the set at a place to a new place behind all others. -/
def copy (place : Place) (store : Store) : Store := ⟨store.sets ++ [store.read place]⟩

end Store

/-- The places of a set of provided and of a set of required namespaces. -/
structure Holding where
  provides : Place
  requires : Place

namespace Holding

/-- The place of the set for a role. -/
def place (holding : Holding) : Role → Place
  | .provide => holding.provides
  | .require => holding.requires

/-- What the two sets hold. -/
def contents (holding : Holding) (store : Store) : Extraction where
  provides := store.read holding.provides
  requires := store.read holding.requires

end Holding

/-- An extractor: its sets, and the set for each callee that it looks for. -/
structure Extractor where
  sets : Holding
  targets : List (Text × Place)

namespace Extractor

/-- The extractor that works on the given sets. -/
def ofSets (sets : Holding) : Extractor where
  sets := sets
  targets :=
    [(Role.provide.callee, sets.provides), (Role.require.callee, sets.requires)]

/-- Look at one node: the argument of a call goes to the set for its callee. -/
def visit (x : Extractor) (store : Store) (n : Node) : Store :=
  match n.literalCall? with
  | none => store
  | some (callee, value) =>
    match x.targets.lookup callee with
    | none => store
    | some place => store.change (fun names => names.insert value) place

/-- Empty both sets where they stand. -/
def reset (x : Extractor) (store : Store) : Store :=
  (store.change (fun _ => ∅) x.sets.provides).change (fun _ => ∅) x.sets.requires

/-- Empty both sets, then look at all nodes of a tree. -/
def extract (x : Extractor) (store : Store) (tree : Node) : Store :=
  tree.walk.foldl x.visit (x.reset store)

end Extractor

/-- An extractor at work. -/
structure Session where
  extractor : Extractor
  store : Store
  /-- The results that were given, the latest last. -/
  results : List Holding

namespace Session

open Extraction (Step)

/-- A new extractor with two empty sets. -/
def start : Session where
  extractor := Extractor.ofSets ⟨0, 1⟩
  store := ⟨[∅, ∅]⟩
  results := []

/-- What the extractor has found. -/
def contents (s : Session) : Extraction := s.extractor.sets.contents s.store

/-- Give a result: both sets are copied. -/
def give (s : Session) : Session where
  extractor := s.extractor
  store := (s.store.copy s.extractor.sets.provides).copy s.extractor.sets.requires
  results := s.results ++ [⟨s.store.size, s.store.size + 1⟩]

/-- The effect of an action. The extraction of a tree ends with a result. -/
def apply (s : Session) : Step → Session
  | .visit node => { s with store := s.extractor.visit s.store node }
  | .extract tree => { s with store := s.extractor.extract s.store tree }.give
  | .reset => { s with store := s.extractor.reset s.store }
  | .inspect => s.give

/-- The session after a sequence of actions. -/
def run (s : Session) (steps : List Step) : Session := steps.foldl apply s

/-- What the extractor has found after each of a sequence of actions. -/
def states (s : Session) : List Step → List Extraction
  | [] => []
  | step :: rest => (s.apply step).contents :: states (s.apply step) rest

end Session

end NamespaceScan
