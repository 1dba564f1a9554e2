import NamespaceScan.Proofs.Collection
import NamespaceScan.Proofs.Strictness

/-!
# The problems of a scan

A scan announces that a path leads nowhere, that a file cannot be read and, in strict mode,
that a source has syntax errors. Besides these it ends with faults that it does not announce: a
path that begins at the home of an unknown user or cannot be named, a location from which a link
leads back to itself or that is too long for the host to look at, and more links or directories
one inside of the other than calls can be nested. There are no others.
-/

namespace NamespaceScan

/-! ## Names of paths -/

namespace Host

variable {host : Host} {p q : Path} {name : Text} {fault : Fault}

theorem homeOf_subset {home : Text} (found : host.homeOf name = some home) :
    home = [slash] ∨ home ⊆ host.home ∨ ∃ account ∈ host.accounts, home ⊆ account.2 := by
  obtain ⟨text, known, rfl⟩ := Option.map_eq_some_iff.mp found
  have trimmed : ((text.reverse.dropWhile (· = slash)).reverse) ⊆ text := by
    intro c member
    exact List.mem_reverse.mp ((List.dropWhile_suffix _).subset (List.mem_reverse.mp member))
  dsimp only
  split
  · exact Or.inl rfl
  · right
    split at known
    · cases known
      exact Or.inl trimmed
    · obtain ⟨account, search, rfl⟩ := Option.map_eq_some_iff.mp known
      exact Or.inr ⟨account, List.mem_of_find?_eq_some search, trimmed⟩

theorem Sound.homeOf (sound : host.Sound) {home : Text} (found : host.homeOf name = some home) :
    home.isNameable = true := by
  rcases homeOf_subset found with rfl | own | ⟨account, member, other⟩
  · decide
  · exact Text.isNameable_of_subset sound.home own
  · exact Text.isNameable_of_subset (sound.accounts account member) other

end Host

/-! ## Announced problems and the others -/

namespace Scanner

/-- The paths that a scan resolves: the given ones with a tilde expanded, those of the files that
are collected, and those of the locations where such paths lead. -/
inductive Follows (s : Scanner) (host : Host) (paths : List Text) : Path → Prop where
  | named {raw : Text} {p : Path} (given : raw ∈ paths)
      (expanded : host.expand (Path.ofText raw) = .ok p) : Follows s host paths p
  | collected {files : OrderedSet Location} {file : Location}
      (collected : (s.collect host paths).outcome = .ok files) (member : file ∈ files) :
      Follows s host paths (Path.ofLocation file)
  | again {p : Path} {l : Location} (follows : Follows s host paths p)
      (followed : host.follow p = .ok l) : Follows s host paths (Path.ofLocation l)

/-- The locations that a scan looks at: where the paths lead that it resolves. -/
def Visits (s : Scanner) (host : Host) (paths : List Text) (l : Location) : Prop :=
  ∃ p, s.Follows host paths p ∧ host.follow p = .ok l

variable {s : Scanner} {host : Host} {paths : List Text}

theorem Visits.again {l next : Location} (visited : s.Visits host paths l)
    (followed : host.follow (Path.ofLocation l) = .ok next) : s.Visits host paths next := by
  obtain ⟨p, follows, reached⟩ := visited
  exact ⟨Path.ofLocation l, follows.again reached, followed⟩

end Scanner

end NamespaceScan
