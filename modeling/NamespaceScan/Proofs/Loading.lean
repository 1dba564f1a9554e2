import NamespaceScan.Proofs.Resolution
import NamespaceScan.Proofs.SettingsFile
import NamespaceScan.Proofs.Traced
import NamespaceScan.Toml.Document

/-!
# Loading settings

Whatever is wrong with a settings file should be refused with a failure about settings, and a
project file without a section for the program should not matter at all. Both hold up to a
number of gaps. `Settings.Unchecked` lists the faults that get through them, each with its
cause: a path that cannot be named, resolved or looked at, an error of the reader that is none in
the document, such as octets that are no text, and a table of tools or a section that is no
table. There are no others. All of this holds whatever the reader makes of the octets of a file.
-/

namespace NamespaceScan

namespace Settings

variable {reader : Toml.TableReader} {host : Host} {file : Path} {path : Option Path} {l : Location}
  {fault : Fault} {problem : Problem}

/-! ## Outcomes -/

theorem outcome_discover_some (reader : Toml.TableReader) (host : Host) (path : Path) :
    (discover reader host (some path)).outcome =
      match host.resolve path with
      | .error fault => .error (.fault fault)
      | .ok l =>
        match isFileAt host (Path.ofLocation l) with
        | .error problem => .error problem
        | .ok true => .ok (some (Path.ofLocation l))
        | .ok false =>
          .error (unusable path ["Configuration file not found: ", path.toText]) := by
  rw [discover, Traced.outcome_bind, named, Traced.outcome_bind, Traced.outcome_ofExcept]
  cases host.resolve path with
  | error fault => rfl
  | ok l =>
      dsimp only [mapError_ok, Except.bind]
      rw [Traced.outcome_bind, Traced.outcome_ofExcept]
      cases isFileAt host (Path.ofLocation l) with
      | error problem => rfl
      | ok present => cases present <;> rfl

theorem outcome_discover_none (reader : Toml.TableReader) (host : Host) :
    (discover reader host none).outcome =
      match isFileAt host (ownFile host) with
      | .error problem => .error problem
      | .ok true => .ok (some (ownFile host))
      | .ok false =>
        match isFileAt host (projectFile host) with
        | .error problem => .error problem
        | .ok false => .ok none
        | .ok true =>
          match hasSection reader host (projectFile host) with
          | .error problem => .error problem
          | .ok used => .ok (if used then some (projectFile host) else none) := by
  unfold discover discovered
  dsimp only
  rw [Traced.outcome_bind, Traced.outcome_ofExcept]
  cases isFileAt host (ownFile host) with
  | error problem => rfl
  | ok present =>
      cases present with
      | true => rfl
      | false =>
          cases isFileAt host (projectFile host) with
          | error problem => rfl
          | ok present =>
              cases present with
              | false => rfl
              | true =>
                  cases hasSection reader host (projectFile host) with
                  | error problem => rfl
                  | ok used => cases used <;> rfl

theorem outcome_ofFile (reader : Toml.TableReader) (host : Host) (file : Path) :
    (ofFile reader host file).outcome =
      match readTable reader host file with
      | .error problem => .error problem
      | .ok table =>
        match sectionOf file.name table with
        | .error fault => .error (.fault fault)
        | .ok body =>
          if body.isVoid then .ok { source := some file }
          else (ofSection file.toText body).map fun settings =>
            { settings with source := some file } := by
  unfold ofFile
  rw [Traced.outcome_bind, note, Traced.outcome_note, Except.bind, Traced.outcome_bind,
    Traced.outcome_ofExcept]
  cases readTable reader host file with
  | error problem => rfl
  | ok table =>
      dsimp only [Except.bind]
      rw [Traced.outcome_bind, Traced.outcome_ofExcept]
      cases sectionOf file.name table with
      | error fault => rfl
      | ok body =>
          dsimp only [Except.bind, mapError_ok]
          split
          · rfl
          · rw [Traced.outcome_bind, Traced.outcome_ofExcept]
            cases ofSection file.toText body <;> rfl

/-- The places that are looked at for the settings file. -/
inductive LooksAt (host : Host) : Option Path → Path → Prop where
  | named {path : Path} {l : Location} (followed : host.follow path = .ok l) :
      LooksAt host (some path) (Path.ofLocation l)
  | own : LooksAt host none (ownFile host)
  | project (noOwn : isFileAt host (ownFile host) = .ok false) :
      LooksAt host none (projectFile host)

/-- The file that settings are loaded from. -/
inductive Chooses (reader : Toml.TableReader) (host : Host) : Option Path → Path → Prop where
  | named {path : Path} {l : Location} {octets : ByteArray} (followed : host.follow path = .ok l)
      (held : Holds host (Path.ofLocation l) octets) :
      Chooses reader host (some path) (Path.ofLocation l)
  | own {octets : ByteArray} (held : Holds host (ownFile host) octets) :
      Chooses reader host none (ownFile host)
  | project {table : Toml.Table} (noOwn : isFileAt host (ownFile host) = .ok false)
      (spells : Spells reader host (projectFile host) table) (mentioned : Mentions (tools table)) :
      Chooses reader host none (projectFile host)

/-- The faults of loading settings, with their causes. -/
inductive Unchecked (reader : Toml.TableReader) (host : Host) : Option Path → Fault → Prop where
  | unencodable {path : Path} {error : Utf8.EncodeError}
      (unresolved : host.follow path = .error (.unencodable error)) :
      Unchecked reader host (some path) (.unencodable error)
  | zeroInPath {path : Path} (unresolved : host.follow path = .error .zeroInPath) :
      Unchecked reader host (some path) .zeroInPath
  | deepLinks {path : Path} (unresolved : host.follow path = .error .tooDeep) :
      Unchecked reader host (some path) .tooDeep
  | linkLoop {path : Path} {l : Location} (followed : host.follow path = .ok l)
      (loops : host.find (Location.toText l) = .error .tooManyLinks) :
      Unchecked reader host (some path) (.linkLoop (Location.toText l))
  | tooLong {path : Option Path} {file : Path} (looked : LooksAt host path file)
      (long : host.find file.toText = .error .nameTooLong) :
      Unchecked reader host path (.refused ⟨.nameTooLong, file.toText, none⟩)
  | beyond {path : Option Path} {file : Path} {octets : ByteArray} {fault : Fault}
      (looked : LooksAt host path file) (held : Holds host file octets)
      (failed : reader octets = .error (.beyond fault)) : Unchecked reader host path fault
  | noContainer {table : Toml.Table} (noOwn : isFileAt host (ownFile host) = .ok false)
      (spells : Spells reader host (projectFile host) table)
      (noContainer : ¬IsContainer (tools table)) :
      Unchecked reader host none (.notContainer (tools table).longTypeWord)
  | noTools {path : Option Path} {file : Path} {table : Toml.Table}
      (chosen : Chooses reader host path file) (spells : Spells reader host file table)
      (isProject : file.name = projectName) (noTable : ∀ entries, tools table ≠ .table entries) :
      Unchecked reader host path (.notTable (tools table).longTypeWord "get")
  | noSection {path : Option Path} {file : Path} {table : Toml.Table} {body : Value}
      (chosen : Chooses reader host path file) (spells : Spells reader host file table)
      (found : sectionOf file.name table = .ok body) (filled : body.isVoid = false)
      (noTable : ∀ entries, body ≠ .table entries) :
      Unchecked reader host path (.notTable body.longTypeWord "keys")

/-- The problems that loading settings can end with. -/
inductive Expected (reader : Toml.TableReader) (host : Host) (path : Option Path) :
    Problem → Prop where
  | failure {failure : Failure} (isConfig : failure.IsConfig) :
      Expected reader host path (.failure failure)
  | fault {fault : Fault} (unchecked : Unchecked reader host path fault) :
      Expected reader host path (.fault fault)

theorem expected_of_isFileAt (looked : LooksAt host path file)
    (failed : isFileAt host file = .error problem) : Expected reader host path problem := by
  obtain ⟨long, rfl⟩ := isFileAt_eq_error_iff.mp failed
  exact Expected.fault (Unchecked.tooLong looked long)

theorem expected_of_readTable (looked : LooksAt host path file)
    (failed : readTable reader host file = .error problem) : Expected reader host path problem := by
  cases readTable_eq_iff.mp failed with
  | refused => exact Expected.failure ⟨_, _, _, rfl⟩
  | malformed => exact Expected.failure ⟨_, _, _, rfl⟩
  | beyond held raised => exact Expected.fault (Unchecked.beyond looked held raised)

theorem expected_of_hasSection (noOwn : isFileAt host (ownFile host) = .ok false)
    (failed : hasSection reader host (projectFile host) = .error problem) :
    Expected reader host none problem := by
  obtain ⟨fault, rfl, unread | ⟨table, read, noContainer, rfl⟩⟩ := hasSection_eq_error_iff.mp failed
  · exact expected_of_readTable (LooksAt.project noOwn) unread
  · exact Expected.fault (Unchecked.noContainer noOwn (readTable_eq_ok_iff.mp read) noContainer)

theorem discover_cases_unnamed (reader : Toml.TableReader) (host : Host) :
    (∃ problem, (discover reader host none).outcome = .error problem ∧
        Expected reader host none problem) ∨
      (∃ file, (discover reader host none).outcome = .ok (some file) ∧
        Chooses reader host none file) ∨
      (discover reader host none).outcome = .ok none := by
  rw [outcome_discover_none]
  split
  · rename_i problem unseen
    exact Or.inl ⟨_, rfl, expected_of_isFileAt LooksAt.own unseen⟩
  · rename_i present
    obtain ⟨octets, held⟩ := isFileAt_eq_ok_true_iff.mp present
    exact Or.inr (Or.inl ⟨_, rfl, Chooses.own held⟩)
  · rename_i noOwn
    split
    · rename_i problem unseen
      exact Or.inl ⟨_, rfl, expected_of_isFileAt (LooksAt.project noOwn) unseen⟩
    · exact Or.inr (Or.inr rfl)
    · split
      · rename_i problem unprobed
        exact Or.inl ⟨_, rfl, expected_of_hasSection noOwn unprobed⟩
      · rename_i used has
        cases used with
        | false => exact Or.inr (Or.inr rfl)
        | true =>
            rcases hasSection_eq_ok_iff.mp has with ⟨-, no⟩ | ⟨table, read, -, mentioned⟩
            · cases no
            · exact Or.inr (Or.inl ⟨_, rfl,
                Chooses.project noOwn (readTable_eq_ok_iff.mp read) (mentioned.mp rfl)⟩)

theorem outcome_load (reader : Toml.TableReader) (host : Host) (path : Option Path) :
    (load reader host path).outcome =
      match (discover reader host path).outcome with
      | .error problem => .error problem
      | .ok none => .ok {}
      | .ok (some file) => (ofFile reader host file).outcome := by
  rw [load, Traced.outcome_bind]
  rcases (discover reader host path).outcome with problem | (chosen | file) <;> rfl

theorem resolve_of_find_ne {path : Path} (followed : host.follow path = .ok l)
    {found : Except Obstacle Spot} (answer : host.find (Path.ofLocation l).toText = found)
    (noLoop : found ≠ .error .tooManyLinks) : host.resolve path = .ok l :=
  Host.resolve_eq_ok_iff.mpr ⟨followed, fun loops => noLoop (answer.symm.trans loops)⟩

theorem outcome_discover_of_chooses (chosen : Chooses reader host path file) :
    (discover reader host path).outcome = .ok (some file) := by
  cases chosen with
  | named followed held =>
      obtain ⟨l, found⟩ := id held
      rw [outcome_discover_some, resolve_of_find_ne followed found nofun]
      simp only [isFileAt_of_holds held]
  | own held => rw [outcome_discover_none, isFileAt_of_holds held]
  | project noOwn spells mentioned =>
      obtain ⟨octets, held, -⟩ := id spells
      have container : IsContainer (tools _) := mentioned.isContainer
      have has : hasSection reader host (projectFile host) = .ok true :=
        hasSection_eq_ok_iff.mpr (Or.inr
          ⟨_, readTable_eq_ok_iff.mpr spells, container, iff_of_true rfl mentioned⟩)
      rw [outcome_discover_none, noOwn, isFileAt_of_holds held, has]
      rfl

theorem outcome_load_of_chooses (chosen : Chooses reader host path file) :
    (load reader host path).outcome = (ofFile reader host file).outcome := by
  rw [outcome_load, outcome_discover_of_chooses chosen]

/-- A place that cannot be looked at stops the search for the file. -/
theorem outcome_load_of_isFileAt (looked : LooksAt host path file)
    (unseen : isFileAt host file = .error problem) :
    (load reader host path).outcome = .error problem := by
  rw [outcome_load]
  cases looked with
  | named followed =>
      have long := (isFileAt_eq_error_iff.mp unseen).1
      rw [outcome_discover_some, resolve_of_find_ne followed long nofun]
      simp only [unseen]
  | own => rw [outcome_discover_none, unseen]
  | project noOwn => rw [outcome_discover_none, noOwn, unseen]

end Settings

end NamespaceScan
