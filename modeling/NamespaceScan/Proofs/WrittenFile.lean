import NamespaceScan.Proofs.Reading
import NamespaceScan.Proofs.ResolvedPlaces
import NamespaceScan.Proofs.Utf8RoundTrip
import NamespaceScan.Proofs.Writing

/-!
# Reading back what was written

After a writing that succeeded, the entry of the target is a file with the octets of the text, and
nothing else has changed but for directories on the way to it. The text is read back by the same
path as long as the path still leads to the directory: the way to the directory may pass through
the entry that the file replaces, and then it ends at the file.
-/

namespace NamespaceScan

/-! ## Lines -/

/-- A text without carriage returns has its lines unified. -/
theorem Text.unifyLines_eq_self {t : Text} (free : (0x0D : CodePoint) ∉ t) : unifyLines t = t := by
  fun_induction unifyLines t with
  | case1 => rfl
  | case2 rest ih => simp at free
  | case3 first rest notPair ih =>
      rw [List.mem_cons, not_or] at free
      rw [ih free.2, if_neg (Ne.symm free.1)]

/-! ## Locations that can be looked up -/

/-- Neither the text of the location nor one of its names has too many octets. -/
structure Location.IsShort (l : Location) : Prop where
  text : isLongPath (Location.toText l) = false
  names : ∀ name ∈ l, isLongName name = false

namespace FileSystem

variable {fs : FileSystem} {place : Location} {entry : Entry} {spot : Spot} {links : Nat}
  {names : List Text}

/-- The names of a location lead to what stands there. -/
theorem leads_of_get? {back : Location} (stands : fs.get? (place ++ back) = some entry)
    (plain : entry.isLink = false)
    (good : ∀ name ∈ back, IsOrdinary name ∧ isLongName name = false) :
    fs.Leads 0 place back ⟨place ++ back, entry⟩ := by
  induction back generalizing place with
  | nil =>
      rw [List.append_nil] at stands ⊢
      exact Leads.arrived stands
  | cons name rest ih =>
      obtain ⟨⟨ordinary, short⟩, others⟩ := List.forall_mem_cons.mp good
      obtain ⟨next, found, passed⟩ := get?_of_get?_of_plain stands plain
      rw [List.append_cons] at stands ⊢
      exact Leads.down found passed ordinary short (ih stands others)

/-- The location that a way leads to is made of names, if that where it starts is and if what is
followed can be named. -/
theorem Leads.isName (leads : fs.Leads links place names spot)
    (targets : ∀ l target, fs.get? l = some (.link target) → target.isNameable = true)
    (placeNamed : ∀ name ∈ place, IsName name)
    (followed : ∀ name ∈ names, slash ∉ name ∧ name.isNameable = true) :
    ∀ name ∈ spot.location, IsName name := by
  induction leads with
  | arrived _ => exact placeNamed
  | stay _ _ _ ih => exact ih placeNamed (List.forall_mem_cons.mp followed).2
  | up _ _ ih =>
      refine ih ?_ (List.forall_mem_cons.mp followed).2
      exact fun name member => placeNamed name ((List.dropLast_sublist _).subset member)
  | down _ _ ordinary _ _ ih =>
      obtain ⟨⟨noSlash, nameable⟩, others⟩ := List.forall_mem_cons.mp followed
      obtain ⟨nonempty, notHere⟩ := not_or.mp ordinary.1
      refine ih (List.forall_mem_append.mpr ⟨placeNamed, ?_⟩) others
      exact List.forall_mem_singleton.mpr ⟨nonempty, notHere, ordinary.2, noSlash, nameable⟩
  | follow stands _ _ _ ih =>
      refine ih ?_ (List.forall_mem_append.mpr ⟨?_, (List.forall_mem_cons.mp followed).2⟩)
      · unfold beginning
        split
        · exact List.forall_mem_nil _
        · exact placeNamed
      · intro name member
        obtain ⟨noSlash, inside⟩ := Text.of_mem_splitOn member
        exact ⟨noSlash, Text.isNameable_of_subset (targets _ _ stands) inside⟩

/-- A change after which a directory has no other members than before adds nothing. -/
theorem keeps_of_change {f : Members → Members} {directory : Location}
    (fewer : ∀ members name entry, Members.get? (f members) name = some entry →
      Members.get? members name = some entry) :
    (ofRoot (fs.root.change f directory)).Keeps fs := by
  intro l entry stands
  rw [outline, get?, root_ofRoot_change] at stands
  by_cases inside : directory <+: l
  · obtain ⟨rest, rfl⟩ := inside
    obtain ⟨reached, way, rfl⟩ := Option.map_eq_some_iff.mp stands
    rw [Entry.descend_change_append] at way
    obtain ⟨above, found, onward⟩ := Option.bind_eq_some_iff.mp way
    suffices before : (above.descend rest).map Entry.outline = some reached.outline by
      rw [outline, get?_append, get?, found, Option.bind_some, before]
    cases above with
    | file octets => exact congrArg (Option.map Entry.outline) onward
    | link target => exact congrArg (Option.map Entry.outline) onward
    | directory members =>
        cases rest with
        | nil =>
            cases onward
            rfl
        | cons name rest =>
            obtain ⟨next, there, further⟩ := Option.bind_eq_some_iff.mp onward
            rw [Entry.descend_directory_cons, fewer members name next there, Option.bind_some,
              further, Option.map_some]
  · exact (Entry.outline_descend_change inside).symm.trans stands

/-- Removing an entry adds nothing. -/
theorem keeps_of_erase (fs : FileSystem) (directory : Location) (name : Text) :
    (fs.erase directory name).Keeps fs := by
  refine keeps_of_change ?_
  intro members other entry stands
  have apart : other ≠ name := by
    rintro rfl
    rw [Members.get?_erase_self] at stands
    cases stands
  rwa [Members.get?_erase_of_ne apart] at stands

end FileSystem

namespace Host

variable {host : Host} {target : Path}

theorem find_toText_of_isShort {l : Location} {entry : Entry}
    (stands : host.files.get? l = some entry) (plain : entry.isLink = false)
    (names : ∀ name ∈ l, IsName name) (short : l.IsShort) :
    host.find (Location.toText l) = .ok ⟨l, entry⟩ := by
  have leads : host.files.Leads 0 [] l ⟨l, entry⟩ :=
    FileSystem.leads_of_get? stands plain fun name member =>
      ⟨(names name member).isOrdinary, short.names name member⟩
  refine find_of_leads (Path.spelled_ofLocation names) (Path.nameable_of_isName names) short.text
    (leads.mono (Nat.zero_le _)) ?_
  cases l with
  | nil =>
      cases stands
      exact Or.inr rfl
  | cons name rest => exact Or.inl (List.cons_ne_nil name rest)

/-- A text is read from a file that has its octets, when the path leads to the file, the links on
its way are seen, and the location of the file is not too long. -/
theorem readSource_of_encode {octets : ByteArray} {l : Location} {text : Text}
    (spelled : target.Spelled) (sees : host.SeesLinks target)
    (found : host.find target.toText = .ok ⟨l, .file octets⟩)
    (names : ∀ name ∈ l, IsName name) (short : l.IsShort)
    (encoded : Utf8.encode text = .ok octets) (noReturn : (0x0D : CodePoint) ∉ text)
    (fits : (octets.size : Int) ≤ sizeLimit) :
    host.readSource target = .ok text := by
  have reached : host.find (Location.toText l) = .ok ⟨l, .file octets⟩ :=
    find_toText_of_isShort (stands_of_find found) rfl names short
  have followed := follow_of_find spelled found (Path.nameable_of_isName names) sees
  have resolved : host.resolve target = .ok l :=
    resolve_eq_ok_iff.mpr ⟨followed, by simp [reached]⟩
  have seen : host.look (Path.ofLocation l) = .ok (some ⟨l, .file octets⟩) := look_of_find reached
  rw [readSource_of_find found resolved seen fits (Utf8.decode_of_encode encoded),
    Text.unifyLines_eq_self noReturn]

/-! ## A writing that succeeds -/

variable {trouble : Trouble} {salt content : Text}

theorem replaced_of_writeBeside {temporary : Temporary} {octets : ByteArray}
    (done : (host.writeBeside trouble temporary target octets).outcome = .ok ()) :
    host.replaceTarget temporary target octets =
      .ok (host.writeBeside trouble temporary target octets).files := by
  unfold writeBeside at done ⊢
  dsimp only at done ⊢
  split at done
  · cases done
  · split at done
    · cases done
    · rename_i replaced
      exact replaced

/-- A writing succeeds only when each of its steps does. -/
theorem steps_of_write (spelled : target.Spelled)
    (done : (host.write trouble salt target content).outcome = .ok ()) :
    ∃ temporary files octets, host.Creates trouble salt target temporary files ∧
      Utf8.encode content = .ok octets ∧
      (host.withFiles files).replaceTarget temporary target octets =
        .ok (host.write trouble salt target content).files := by
  rcases write_steps host trouble salt content spelled with
    ⟨⟨problem, failed⟩, -⟩ | ⟨temporary, files, creates, written⟩
  · cases failed.symm.trans done
  · rw [written] at done ⊢
    split at done
    · cases done
    · rename_i octets encoded
      exact ⟨temporary, files, octets, creates, encoded, replaced_of_writeBeside done⟩

/-- The file system after a writing that succeeded, and what is needed to read the text back. -/
structure Arrives (host : Host) (target : Path) (content : Text) (octets : ByteArray)
    (directory : Location) (final : FileSystem) : Prop where
  delivers : host.Delivers target octets (host.parentsMade target) directory final
  encoded : Utf8.encode content = .ok octets
  own : isOwnName target.name = true
  shortPath : isLongPath target.toText = false
  shortName : isLongName target.name = false
  nameable : Nameable target.names

theorem arrives_of_write (spelled : target.Spelled)
    (done : (host.write trouble salt target content).outcome = .ok ()) :
    ∃ octets directory,
      host.Arrives target content octets directory
        (host.write trouble salt target content).files := by
  obtain ⟨temporary, files, octets, creates, encoded, replaced⟩ := steps_of_write spelled done
  obtain ⟨directory, delivers⟩ :=
    delivers_of_replaceTarget spelled creates.nameable_names
      (extends_parentsMade host spelled (nameable_parent creates.nameable)) creates.created replaced
  obtain ⟨-, shortName, -⟩ := createTemporary_cases creates.created
  obtain ⟨shortPath, own, -⟩ := replaceTarget_cases replaced
  exact ⟨octets, directory, delivers, encoded, own, shortPath, shortName, creates.nameable_names⟩

/-- The location that a path leads to is made of names, also in a file system with other entries
than that of a sound host, if it has no other links. -/
theorem isName_of_find {p : Path} {spot : Spot} {files : FileSystem} (sound : host.Sound)
    (spelled : p.Spelled) (noNewLink : ∀ l target, files.get? l = some (.link target) →
      host.files.get? l = some (.link target))
    (found : (host.withFiles files).find p.toText = .ok spot) :
    ∀ name ∈ spot.location, IsName name := by
  obtain ⟨-, leads⟩ := leads_of_find spelled found
  have nameable := Path.isNameable_toText_iff.mp (isNameable_of_find found)
  refine leads.isName ?_ ?_ fun name member => ⟨(spelled name member).2.2, nameable name member⟩
  · exact fun l target stands => sound.wellNamed.isNameable_link (noNewLink l target stands)
  · unfold Path.start
    split
    · exact List.forall_mem_nil _
    · obtain ⟨members, stands⟩ := sound.cwd
      exact sound.wellNamed.isName stands

namespace Arrives

variable {octets : ByteArray} {final : FileSystem} {directory : Location}

/-- What stands elsewhere than the target stands there after the writing. -/
theorem keeps (arrives : host.Arrives target content octets directory final) :
    ((host.parentsMade target).erase directory target.name).Keeps final := by
  intro l entry stands
  have apart : l ≠ directory ++ [target.name] := by
    rintro rfl
    obtain ⟨members, above⟩ := directory_of_parentSpot arrives.delivers.above
    rw [files_withFiles] at above
    rw [FileSystem.outline, FileSystem.get?_erase_self above] at stands
    cases stands
  rw [arrives.delivers.others l apart]
  exact FileSystem.keeps_of_erase _ directory target.name l entry stands

/-- No link is new after the writing. -/
theorem noNewLink (arrives : host.Arrives target content octets directory final) {l : Location}
    {text : Text} (stands : final.get? l = some (.link text)) :
    host.files.get? l = some (.link text) := by
  have apart : l ≠ directory ++ [target.name] := by
    rintro rfl
    cases arrives.delivers.written.symm.trans stands
  have stood : (host.parentsMade target).get? l = some (.link text) :=
    (FileSystem.get?_eq_some_iff_of_outline (arrives.delivers.others l apart) rfl).mp stands
  cases before : host.files.get? l with
  | none =>
      obtain ⟨p, members, -, found⟩ := arrives.delivers.prepared.made l _ before stood
      cases (stands_of_find found).symm.trans stood
  | some entry =>
      obtain ⟨now, stays, same⟩ := arrives.delivers.prepared.kept.get? before
      cases stood.symm.trans stays
      cases entry with
      | link other => exact congrArg some same.symm
      | file octets => cases same
      | directory members => cases same

/-- The text is read back when the path to the directory does not pass the entry that was
replaced, and the links on its way are seen. -/
theorem readSource (arrives : host.Arrives target content octets directory final)
    (sound : host.Sound) (spelled : target.Spelled)
    (apart : (host.withFiles ((host.parentsMade target).erase directory target.name)).parentSpot
      target = .ok directory)
    (short : Location.IsShort (directory ++ [target.name]))
    (sees : (host.withFiles final).SeesLinks target) (noReturn : (0x0D : CodePoint) ∉ content)
    (fits : (octets.size : Int) ≤ sizeLimit) :
    (host.withFiles final).readSource target = .ok content := by
  have above : (host.withFiles final).parentSpot target = .ok directory :=
    parentSpot_of_keepsWays arrives.keeps.keepsWays apart
  have found : (host.withFiles final).find target.toText =
      .ok ⟨directory ++ [target.name], .file octets⟩ :=
    find_of_parentSpot spelled arrives.nameable arrives.own arrives.shortPath arrives.shortName
      above arrives.delivers.written rfl
  have names := isName_of_find sound spelled (fun _ _ => arrives.noNewLink) found
  exact readSource_of_encode spelled sees found names short arrives.encoded noReturn fits

end Arrives

/-! ## All or nothing -/

/-- The target is a file with the octets, in the directory at a location. Everything else that
there was is still there, and what is new besides are directories, so no temporary file is left. -/
structure Replaces (host : Host) (target : Path) (octets : ByteArray) (directory : Location)
    (final : FileSystem) : Prop where
  written : final.get? (directory ++ [target.name]) = some (.file octets)
  kept : ∀ l entry, l ≠ directory ++ [target.name] → host.files.outline l = some entry →
    final.outline l = some entry
  added : ∀ l entry, l ≠ directory ++ [target.name] → host.files.get? l = none →
    final.get? l = some entry → entry.isDirectory = true

theorem Delivers.replaces {octets : ByteArray} {parents final : FileSystem} {directory : Location}
    (delivers : host.Delivers target octets parents directory final) :
    host.Replaces target octets directory final where
  written := delivers.written
  kept l entry apart stands :=
    (delivers.others l apart).trans (delivers.prepared.kept l entry stands)
  added l entry apart absent stands := by
    have drawn : parents.outline l = some entry.outline := by
      rw [← delivers.others l apart, FileSystem.outline, stands, Option.map_some]
    obtain ⟨before, stood, same⟩ := Option.map_eq_some_iff.mp drawn
    obtain ⟨p, members, -, found⟩ := delivers.prepared.made l before absent stood
    have directory : parents.get? l = some (.directory members) := stands_of_find found
    cases stood.symm.trans directory
    rw [← Entry.isDirectory_outline, ← same]
    rfl

/-- A writing either replaces the target or leaves everything as it was, whichever of its steps
fails. When it succeeds, the octets of the text stand under the name of the target in the
directory that its path leads to, once the directories on the way are there. The text is read
back by the same path, provided that it has no carriage returns and is not too large, that the
path to the directory does not pass through the entry that was replaced, that the location is not
too long to be looked up, and that no link on the way is. -/
theorem write_all_or_nothing (sound : host.Sound) (trouble : Trouble) (salt raw content : Text) :
    ((host.write trouble salt (Path.ofText raw) content).outcome = .ok () →
      ∃ octets directory,
        Utf8.encode content = .ok octets ∧
        (host.withFiles (host.parentsMade (Path.ofText raw))).parentSpot (Path.ofText raw) =
          .ok directory ∧
        host.Replaces (Path.ofText raw) octets directory
          (host.write trouble salt (Path.ofText raw) content).files ∧
        ((0x0D : CodePoint) ∉ content → (octets.size : Int) ≤ sizeLimit →
          (host.withFiles ((host.parentsMade (Path.ofText raw)).erase directory
              (Path.ofText raw).name)).parentSpot (Path.ofText raw) = .ok directory →
          Location.IsShort (directory ++ [(Path.ofText raw).name]) →
          (host.withFiles (host.write trouble salt (Path.ofText raw) content).files).SeesLinks
              (Path.ofText raw) →
          (host.withFiles (host.write trouble salt (Path.ofText raw) content).files).readSource
              (Path.ofText raw) = .ok content)) ∧
      ∀ problem, (host.write trouble salt (Path.ofText raw) content).outcome = .error problem →
        host.files.Keeps (host.write trouble salt (Path.ofText raw) content).files := by
  have spelled := Path.spelled_ofText raw
  constructor
  · intro done
    obtain ⟨octets, directory, arrives⟩ := arrives_of_write spelled done
    refine ⟨octets, directory, arrives.encoded, arrives.delivers.above,
      arrives.delivers.replaces, ?_⟩
    intro noReturn fits apart short sees
    exact arrives.readSource sound spelled apart short sees noReturn fits
  · intro problem failed
    rcases write_cases host trouble salt content spelled with ⟨-, -, spares⟩ | ⟨done, -⟩
    · exact spares.kept
    · cases failed.symm.trans done

/-- A working directory with a link to a directory that lies deeper, and a file in there. -/
def linkedFolder : Host where
  files :=
    { members :=
        [("home", .directory
          [("docs", .link "data/docs"),
            ("data", .directory [("docs", .directory [("a.txt", .file "old".toUTF8)])])])] }
  cwd := ["home"]

theorem write_all_or_nothing_linkedFolder :
    linkedFolder.Sound ∧
      (linkedFolder.write (fun _ => none) "12345678" (Path.ofText "docs/a.txt") "new").outcome =
        .ok () ∧
      (linkedFolder.withFiles
        (linkedFolder.write (fun _ => none) "12345678" (Path.ofText "docs/a.txt")
          "new").files).readSource (Path.ofText "docs/a.txt") = .ok "new" ∧
      ∃ problem,
        (linkedFolder.write (fun _ => none) "12345678" (Path.ofText "data") "new").outcome =
          .error problem ∧
        linkedFolder.files.Keeps
          (linkedFolder.write (fun _ => none) "12345678" (Path.ofText "data") "new").files := by
  have sound : linkedFolder.Sound := {
    wellNamed := rfl
    cwd := ⟨_, rfl⟩
    home := by decide
    accounts := nofun }
  have done :
      (linkedFolder.write (fun _ => none) "12345678" (Path.ofText "docs/a.txt") "new").outcome =
        .ok () := rfl
  obtain ⟨octets, directory, encoded, above, -, readBack⟩ :=
    (write_all_or_nothing sound (fun _ => none) "12345678" "docs/a.txt" "new").1 done
  refine ⟨sound, done, ?_, ?_⟩
  · cases encoded
    cases above
    exact readBack (by decide) (by decide) rfl ⟨rfl, by decide⟩ rfl
  · refine ⟨_, rfl, ?_⟩
    exact (write_all_or_nothing sound (fun _ => none) "12345678" "data" "new").2 _ rfl

/-! ## Texts that are not read back -/

/-- A link to the directory where it stands. -/
def selfLink : Host where
  files := { members := [("l", .link ".")] }

/-- A link halfway down to a directory whose location is too long to be looked up. -/
def deepFolder : Host where
  files := { members := ("s", .link (nestedPath 9)) :: nested [] 17 }

/-- A file in the deepest directory. -/
def deepFile : Text := Text.concat ["s/", nestedPath 8, "/f"]

/-- A link deep down to the root, where its own path is too long to be looked up. -/
def deepLink : Host where
  files :=
    { members := ("s", .link (nestedPath 16)) :: nested [(wideName, .link "/")] 16 }

/-- A file beside the link at the top, by way of both links. -/
def fileBehindLink : Text := Text.concat ["s/", wideName, "/f"]

/-- The path to the directory passes through the link that the file replaces, or the location of
the file is too long, or that of a link on the way. -/
theorem not_read_back :
    ((selfLink.write (fun _ => none) "12345678" (Path.ofText "l/l") "x").outcome = .ok () ∧
      (selfLink.withFiles
        (selfLink.write (fun _ => none) "12345678" (Path.ofText "l/l") "x").files).readSource
          (Path.ofText "l/l") = .error (unread ["File not found: ", "l/l"] "l/l" none)) ∧
      (deepFolder.write (fun _ => none) "12345678" (Path.ofText deepFile) "x").outcome.isOk = true ∧
      ((deepFolder.withFiles
        (deepFolder.write (fun _ => none) "12345678" (Path.ofText deepFile) "x").files).readSource
          (Path.ofText deepFile)).isOk = false ∧
      (deepLink.write (fun _ => none) "12345678" (Path.ofText fileBehindLink) "x").outcome.isOk =
        true ∧
      ((deepLink.withFiles
        (deepLink.write (fun _ => none) "12345678" (Path.ofText fileBehindLink)
          "x").files).readSource (Path.ofText fileBehindLink)).isOk = false ∧
      (0x0D : CodePoint) ∉ ("x" : Text) ∧ ("x".toUTF8.size : Int) ≤ sizeLimit :=
  ⟨⟨rfl, rfl⟩, by decide +kernel, by decide +kernel, by decide +kernel, by decide +kernel,
    by decide, by decide⟩

end Host

end NamespaceScan
