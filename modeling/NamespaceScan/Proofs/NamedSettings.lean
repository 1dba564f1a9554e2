import NamespaceScan.Proofs.Loading
import NamespaceScan.Proofs.ResolvedPlaces

/-!
# Naming the settings file that is found

The settings file that is found in the working directory can also be named. Then its path is
resolved first, and the section that counts is chosen by the name of the file where the links
end. So both ways agree when the file is no link, and else when the name at the end of the links
chooses the same section, provided that the resolved path is not too long to be looked up. A link
from one of the two names to a file with the other one makes them differ.
-/

namespace NamespaceScan

namespace Settings

variable {reader : Toml.TableReader} {host : Host} {file other : Path} {l : Location}
  {octets : ByteArray} {table : Toml.Table} {settings : Settings}

/-! ## Tables -/

/-- The settings that a table gives when it is read from the file at a path. -/
def ofTable (file : Path) (table : Toml.Table) : Except Problem Settings :=
  match sectionOf file.name table with
  | .error fault => .error (.fault fault)
  | .ok body =>
    if body.isVoid then .ok { source := some file }
    else (ofSection file.toText body).map fun settings => { settings with source := some file }

theorem outcome_ofFile_of_spells (spells : Spells reader host file table) :
    (ofFile reader host file).outcome = ofTable file table := by
  rw [outcome_ofFile, readTable_eq_ok_iff.mpr spells]
  rfl

theorem spells_of_outcome_ofFile (loaded : (ofFile reader host file).outcome = .ok settings) :
    ∃ table, Spells reader host file table ∧ ofTable file table = .ok settings := by
  rw [outcome_ofFile] at loaded
  split at loaded
  · cases loaded
  · rename_i table read
    exact ⟨table, readTable_eq_ok_iff.mp read, loaded⟩

/-- Where a section stands matters only when it is refused. -/
theorem ofSection_congr {path otherPath : Text} {body : Value}
    (accepted : ofSection path body = .ok settings) : ofSection otherPath body = .ok settings := by
  obtain ⟨entries, isTable, read⟩ := ofSection_eq_ok_iff.mp accepted
  exact ofSection_eq_ok_iff.mpr
    ⟨entries, isTable, ofEntries_eq_ok_iff.mpr (ofEntries_eq_ok_iff.mp read)⟩

/-- Two names choose the same section when none or both of them are the name of the project
file. -/
theorem sectionOf_congr {name otherName : Text}
    (alike : otherName = projectName ↔ name = projectName) :
    sectionOf otherName table = sectionOf name table := by
  simp only [sectionOf, alike]

/-- The same table gives the same settings at files whose names choose the same section. -/
theorem ofTable_congr (alike : other.name = projectName ↔ file.name = projectName)
    (given : ofTable file table = .ok settings) :
    ofTable other table = .ok { settings with source := some other } := by
  unfold ofTable at given ⊢
  rw [sectionOf_congr alike]
  split at given
  · cases given
  · rename_i body chosen
    split at given
    · rename_i void
      cases given
      exact if_pos void
    · rename_i filled
      cases checked : ofSection file.toText body with
      | error problem =>
          rw [checked] at given
          cases given
      | ok read =>
          rw [checked] at given
          cases given
          rw [if_neg filled, ofSection_congr checked]
          rfl

/-! ## Resolved files -/

/-- What is read at a named path is the file at the location that the path is resolved to. -/
theorem outcome_load_named {spot : Location} (followed : host.follow file = .ok l)
    (reached : host.find (Location.toText l) = .ok ⟨spot, .file octets⟩)
    (read : reader octets = .ok table) :
    (load reader host (some file)).outcome = ofTable (Path.ofLocation l) table := by
  have held : Holds host (Path.ofLocation l) octets := ⟨spot, reached⟩
  rw [outcome_load_of_chooses (Chooses.named followed held)]
  exact outcome_ofFile_of_spells ⟨octets, held, read⟩

/-- A location that is too long to be looked up is a fault. -/
theorem outcome_load_named_of_long (followed : host.follow file = .ok l)
    (long : host.find (Location.toText l) = .error .nameTooLong) :
    (load reader host (some file)).outcome =
      .error (.fault (.refused ⟨.nameTooLong, Location.toText l, none⟩)) :=
  outcome_load_of_isFileAt (LooksAt.named followed) (isFileAt_eq_error_iff.mpr ⟨long, rfl⟩)

/-! ## Found files -/

/-- The file that is found stands in the working directory under one of two names. -/
theorem exists_of_discover (found : (discover reader host none).outcome = .ok (some file)) :
    ∃ name, IsName name ∧ file = Path.ofLocation (host.cwd ++ [name]) := by
  rcases discover_cases_unnamed reader host with
    ⟨problem, failed, -⟩ | ⟨chosen, chose, chooses⟩ | nothing
  · cases found.symm.trans failed
  · cases found.symm.trans chose
    cases chooses with
    | own => exact ⟨ownName, by decide, rfl⟩
    | project => exact ⟨projectName, by decide, rfl⟩
  · cases found.symm.trans nothing

theorem isName_of_discover (sound : host.Sound)
    (found : (discover reader host none).outcome = .ok (some file)) :
    file = Path.ofLocation file.names ∧ ∀ name ∈ file.names, IsName name := by
  obtain ⟨name, isName, rfl⟩ := exists_of_discover found
  obtain ⟨members, stands⟩ := sound.cwd
  exact ⟨rfl, List.forall_mem_append.mpr
    ⟨sound.wellNamed.isName stands, List.forall_mem_singleton.mpr isName⟩⟩

/-- The program's own settings file is found first. -/
theorem outcome_of_spells_own (spells : Spells reader host (ownFile host) table) :
    (discover reader host none).outcome = .ok (some (ownFile host)) ∧
      (load reader host none).outcome = ofTable (ownFile host) table := by
  have ⟨octets, held, _⟩ := spells
  have chosen : Chooses reader host none (ownFile host) := Chooses.own held
  refine ⟨outcome_discover_of_chooses chosen, ?_⟩
  rw [outcome_load_of_chooses chosen]
  exact outcome_ofFile_of_spells spells

/-- What naming the settings file that is found comes to, compared with the settings that are loaded
without a name. If the file is no link, they are the same. In general the table is read at the
place where the file stands in truth; the settings are the same but for their source when the
name there chooses the same section. This is so whenever no link on the way is hidden by a long
path; a place that is too long to be looked up is a fault. -/
theorem named_of_discovered (sound : host.Sound)
    (found : (discover reader host none).outcome = .ok (some file))
    (loaded : (load reader host none).outcome = .ok settings) :
    (∀ entry, host.files.get? file.names = some entry → entry.isLink = false →
        (load reader host (some file)).outcome = .ok settings) ∧
      ∃ real octets table,
        host.find file.toText = .ok ⟨real, .file octets⟩ ∧ reader octets = .ok table ∧
        ofTable file table = .ok settings ∧
        (host.SeesLinks file → host.find (Location.toText real) ≠ .error .nameTooLong →
          (load reader host (some file)).outcome = ofTable (Path.ofLocation real) table ∧
            (((Path.ofLocation real).name = projectName ↔ file.name = projectName) →
              (load reader host (some file)).outcome =
                .ok { settings with source := some (Path.ofLocation real) })) ∧
        (host.SeesLinks file → host.find (Location.toText real) = .error .nameTooLong →
          (load reader host (some file)).outcome =
            .error (.fault (.refused ⟨.nameTooLong, Location.toText real, none⟩))) := by
  rw [outcome_load, found] at loaded
  obtain ⟨table, ⟨octets, ⟨real, reached⟩, read⟩, given⟩ := spells_of_outcome_ofFile loaded
  obtain ⟨isLocation, named⟩ := isName_of_discover sound found
  have stands := Host.stands_of_find reached
  have realNamed : ∀ name ∈ real, IsName name := sound.wellNamed.isName stands
  have ends : host.SeesLinks file → host.follow file = .ok real :=
    Host.follow_of_find (isLocation ▸ Path.spelled_ofLocation named) reached
      (Path.nameable_of_isName realNamed)
  refine ⟨?_, real, octets, table, reached, read, given, ?_, ?_⟩
  · intro entry standsHere plain
    have followed : host.follow file = .ok file.names := by
      rw [isLocation]
      exact Host.follow_ofLocation standsHere plain named
    have here : host.find (Location.toText file.names) = .ok ⟨real, .file octets⟩ := by
      rw [← reached]
      exact congrArg (fun p : Path => host.find p.toText) isLocation.symm
    rw [outcome_load_named followed here read, ← isLocation, given]
  · intro sees short
    have there := (Host.find_toText_of_get? stands rfl realNamed).resolve_right short
    have same := outcome_load_named (ends sees) there read
    refine ⟨same, fun alike => ?_⟩
    rw [same, ofTable_congr alike given]
  · intro sees long
    exact outcome_load_named_of_long (ends sees) long

/-! ## Links -/

/-- A host whose own settings file is a link to another file with the given name and text. -/
def withLink (name : Text) (text : String) : Host where
  files := { members := [(ownName, .link name), (name, .file text.toUTF8)] }

/-- The strictness that both hosts below set. -/
def strictText : String := "[closuredeps]\nstrict = true"

/-- The link leads to a file without a meaning of its own. -/
def teamFile : Host := withLink "team.toml" strictText

/-- The link leads to the project file. -/
def sharedFile : Host := withLink projectName strictText

/-- The table that the text spells. -/
def strictTable : Toml.Table := [(sectionKey, .table [("strict", .bool true)])]

theorem load_strictText : Toml.load strictText.toUTF8 = .ok strictTable := by
  have decoded : Utf8.decode strictText.toUTF8 = .ok (Text.ofString strictText) := by
    decide +kernel
  have parsed : Toml.parse strictText = .ok strictTable := by with_unfolding_all rfl
  exact (Toml.load_of_decode decoded).trans parsed

theorem sound_withLink {name : Text} {text : String}
    (wellNamed : (withLink name text).files.WellNamed) : (withLink name text).Sound where
  wellNamed := wellNamed
  cwd := ⟨_, rfl⟩
  home := show ({} : Host).home.isNameable = true by decide
  accounts := nofun

theorem sound_teamFile : teamFile.Sound := sound_withLink rfl

theorem spells_teamFile : Spells Toml.load teamFile (ownFile teamFile) strictTable :=
  ⟨_, ⟨_, rfl⟩, load_strictText⟩

theorem sound_sharedFile : sharedFile.Sound := sound_withLink rfl

theorem spells_sharedFile : Spells Toml.load sharedFile (ownFile sharedFile) strictTable :=
  ⟨_, ⟨_, rfl⟩, load_strictText⟩

theorem named_of_discovered_teamFile :
    teamFile.Sound ∧
      (discover Toml.load teamFile none).outcome = .ok (some (ownFile teamFile)) ∧
      (load Toml.load teamFile none).outcome =
        .ok { strict := true, source := some (ownFile teamFile) } ∧
      (load Toml.load teamFile (some (ownFile teamFile))).outcome =
        .ok { strict := true, source := some (Path.ofText "/team.toml") } := by
  obtain ⟨found, loads⟩ := outcome_of_spells_own spells_teamFile
  have loaded : (load Toml.load teamFile none).outcome =
      .ok { strict := true, source := some (ownFile teamFile) } := loads.trans rfl
  obtain ⟨-, real, octets, table, reached, -, -, ofShort, -⟩ :=
    named_of_discovered sound_teamFile found loaded
  have stands : teamFile.find (ownFile teamFile).toText =
      .ok ⟨["team.toml"], .file strictText.toUTF8⟩ := rfl
  cases stands.symm.trans reached
  have alike : (Path.ofLocation ["team.toml"]).name = projectName ↔
      (ownFile teamFile).name = projectName := iff_of_false (by decide) (by decide)
  exact ⟨sound_teamFile, found, loaded, (ofShort rfl nofun).2 alike⟩

/-- A link to the project file: its section of settings counts when the file is found, and does not
when it is named. -/
theorem strictness_lost_sharedFile :
    sharedFile.Sound ∧
      (discover Toml.load sharedFile none).outcome = .ok (some (ownFile sharedFile)) ∧
      (load Toml.load sharedFile none).outcome =
        .ok { strict := true, source := some (ownFile sharedFile) } ∧
      (load Toml.load sharedFile (some (ownFile sharedFile))).outcome =
        .ok { strict := false, source := some (projectFile sharedFile) } := by
  obtain ⟨found, loads⟩ := outcome_of_spells_own spells_sharedFile
  have followed : sharedFile.follow (ownFile sharedFile) = .ok [projectName] := rfl
  have reached : sharedFile.find (Location.toText [projectName]) =
      .ok ⟨[projectName], .file strictText.toUTF8⟩ := rfl
  exact ⟨sound_sharedFile, found, loads.trans rfl,
    (outcome_load_named followed reached load_strictText).trans rfl⟩

end Settings

end NamespaceScan
