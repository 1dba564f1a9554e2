import NamespaceScan.OrderedSet
import NamespaceScan.Tree.Node

/-!
# Extraction of namespaces

A call whose callee has the dotted name `goog.provide` or `goog.require` and
whose first argument is a string literal contributes that string. All other
nodes contribute nothing, so one odd call never stops the extraction.
-/

namespace NamespaceScan

/-- A set of namespaces. -/
abbrev Names := OrderedSet Text

/-- The two ways in which a call names a namespace. -/
inductive Role where
  | provide
  | require
deriving DecidableEq

namespace Role

/-- The dotted name of the callee. -/
def callee : Role → Text
  | .provide => "goog.provide"
  | .require => "goog.require"

/-- The role that a callee's dotted name gives to a call. -/
def ofCallee? (name : Text) : Option Role :=
  if name = provide.callee then some .provide
  else if name = require.callee then some .require
  else none

end Role

/-- The dotted name of the callee and the value of the first argument, for a call whose first
argument is a string literal. The arguments stand behind the callee. -/
def Node.literalCall? (n : Node) : Option (Text × Text) :=
  match n.kind, n.children.head?, n.nextSibling? 0 with
  | .call, some callee, some argument => do
    let name ← callee.qualifiedName?
    if argument.isString then argument.value.map fun value => (name, value) else none
  | _, _, _ => none

/-- What a single node contributes. -/
def Node.contribution? (n : Node) : Option (Role × Text) :=
  n.literalCall?.bind fun call => (Role.ofCallee? call.1).map fun role => (role, call.2)

/-- The namespaces found so far. -/
structure Extraction where
  provides : Names := ∅
  requires : Names := ∅

namespace Extraction

/-- The extraction without any namespace. -/
def empty : Extraction := {}

instance : EmptyCollection Extraction := ⟨empty⟩

/-- Record a namespace. -/
def record (e : Extraction) : Role × Text → Extraction
  | (.provide, name) => { e with provides := e.provides.insert name }
  | (.require, name) => { e with requires := e.requires.insert name }

/-- Look at one node and record what it contributes. -/
def visit (e : Extraction) (n : Node) : Extraction :=
  match n.contribution? with
  | some found => e.record found
  | none => e

/-- The namespaces of a whole tree. -/
def ofTree (root : Node) : Extraction := root.walk.foldl visit ∅

/-- No namespace was found. -/
def isEmpty (e : Extraction) : Bool := e.provides.isEmpty && e.requires.isEmpty

/-- An action on an extractor. -/
inductive Step where
  /-- Look at one node. -/
  | visit (node : Node)
  /-- Forget everything, then look at all nodes of a tree. -/
  | extract (tree : Node)
  /-- Forget everything. -/
  | reset
  /-- Look at the state. -/
  | inspect

/-- The effect of an action. -/
def apply (e : Extraction) : Step → Extraction
  | .visit node => e.visit node
  | .extract tree => ofTree tree
  | .reset => ∅
  | .inspect => e

/-- The states after each of a sequence of actions. -/
def states (e : Extraction) : List Step → List Extraction
  | [] => []
  | step :: rest => e.apply step :: states (e.apply step) rest

/-- The state after a sequence of actions. -/
def run (e : Extraction) (steps : List Step) : Extraction := steps.foldl apply e

end Extraction

end NamespaceScan
