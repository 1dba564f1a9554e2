import NamespaceScan.Proofs.Utf8
import NamespaceScan.Proofs.Writing

/-!
# What a failed writing leaves behind

A writing that fails should leave no file behind that was not there before, and mostly it does not:
a refused step removes the temporary file again. The exception is a text with surrogates. It has no
octets, which is found when the temporary file is there already, and that one stays, empty. This
is the only new file that a failed writing can leave.
-/

namespace NamespaceScan

/-- A file stands at the location, and none did before. -/
def FileSystem.IsNewFile (before after : FileSystem) (l : Location) : Prop :=
  (∃ octets, after.get? l = some (.file octets)) ∧ ∀ octets, before.get? l ≠ some (.file octets)

namespace Host

variable {host : Host} {target : Path} {old new : FileSystem} {l : Location} {trouble : Trouble}
  {salt content : Text} {temporary : Temporary} {files : FileSystem}

/-- New directories on the way to a target are no files. -/
theorem Extends.not_isNewFile (extended : host.Extends target old new) : ¬old.IsNewFile new l := by
  rintro ⟨⟨octets, stands⟩, noFile⟩
  cases stood : old.get? l with
  | none =>
      obtain ⟨p, members, -, found⟩ := extended.made l _ stood stands
      have directory : new.get? l = some (.directory members) := stands_of_find found
      cases stands.symm.trans directory
  | some entry =>
      obtain ⟨now, stays, same⟩ := extended.kept.get? stood
      cases stands.symm.trans stays
      have isFile : entry = .file octets := by
        cases entry with
        | file other => exact same.symm
        | directory members => cases same
        | link target => cases same
      exact noFile octets (isFile ▸ stood)

/-- Beside new directories, a file that was put where nothing stood is the only new one. -/
theorem Extends.isNewFile_put_iff {directory : Location} {name : Text} {octets : ByteArray}
    {members : Members} (extended : host.Extends target old new)
    (above : new.get? directory = some (.directory members))
    (free : new.get? (directory ++ [name]) = none) :
    old.IsNewFile (new.put directory name (.file octets)) l ↔ l = directory ++ [name] := by
  constructor
  · rintro ⟨⟨found, stands⟩, noFile⟩
    apply Decidable.byContradiction
    intro apart
    have same : (new.put directory name (.file octets)).outline l = new.outline l :=
      FileSystem.outline_put_of_ne rfl (by simp [free]) apart
    have stood := (FileSystem.get?_eq_some_iff_of_outline same rfl).mp stands
    exact extended.not_isNewFile ⟨⟨found, stood⟩, noFile⟩
  · rintro rfl
    refine ⟨⟨octets, FileSystem.get?_put_self above⟩, fun other stood => ?_⟩
    obtain ⟨now, stays, -⟩ := extended.kept.get? stood
    cases free.symm.trans stays

/-- The temporary file is the only new file when it was just created. -/
theorem Creates.isNewFile_iff (creates : host.Creates trouble salt target temporary files)
    (spelled : target.Spelled) :
    host.files.IsNewFile files l ↔ l = temporary.directory ++ [temporary.name] := by
  obtain ⟨-, -, ⟨members, above⟩, free, placed⟩ := createTemporary_cases creates.created
  rw [files_withFiles] at above free placed
  rw [placed]
  have extended := extends_parentsMade host spelled (nameable_parent creates.nameable)
  exact extended.isNewFile_put_iff above
    free

/-- A text has no octets exactly when there is a surrogate in it. -/
theorem exists_encode_eq_error_iff :
    (∃ error, Utf8.encode content = .error error) ↔ ∃ c ∈ content, c.isSurrogate = true := by
  constructor
  · rintro ⟨error, failed⟩
    apply Classical.byContradiction
    intro none
    rw [Utf8.encode_of_no_surrogates fun c member surrogate => none ⟨c, member, surrogate⟩]
      at failed
    cases failed
  · rintro ⟨c, member, surrogate⟩
    unfold Utf8.encode
    split
    · exact ⟨_, rfl⟩
    · rename_i none
      exact absurd surrogate (Utf8.firstSurrogates_eq_none_iff.mp none c member)

/-- A refused step removes the temporary file. -/
theorem files_writeBeside {octets : ByteArray} {problem : Problem}
    (failed : (host.writeBeside trouble temporary target octets).outcome = .error problem) :
    (host.writeBeside trouble temporary target octets).files =
      host.files.erase temporary.directory temporary.name := by
  unfold writeBeside at failed ⊢
  dsimp only at failed ⊢
  split at failed
  · rfl
  · split at failed
    · rfl
    · cases failed

/-- The place of the file that a writing leaves behind: the text has a surrogate, and the writing
comes as far as its temporary file. -/
def LeavesAt (host : Host) (trouble : Trouble) (salt : Text) (target : Path) (content : Text)
    (l : Location) : Prop :=
  (∃ c ∈ content, c.isSurrogate = true) ∧
    ∃ temporary files, host.Creates trouble salt target temporary files ∧
      l = temporary.directory ++ [temporary.name]

theorem Creates.unique {otherTemporary : Temporary} {otherFiles : FileSystem}
    (creates : host.Creates trouble salt target temporary files)
    (other : host.Creates trouble salt target otherTemporary otherFiles) :
    otherTemporary = temporary := by
  cases creates.created.symm.trans other.created
  rfl

/-- A writing fails with no new entries but directories, or because its text has no octets when the
temporary file is there. -/
theorem failed_write_cases (spelled : target.Spelled) {problem : Problem}
    (failed : (host.write trouble salt target content).outcome = .error problem) :
    host.Extends target host.files (host.write trouble salt target content).files ∧
        (∀ l, ¬host.LeavesAt trouble salt target content l) ∨
      ∃ temporary error, host.Creates trouble salt target temporary
          (host.write trouble salt target content).files ∧
        Utf8.encode content = .error error ∧ problem = .fault (.unencodable error) := by
  rcases write_steps host trouble salt content spelled with
    ⟨-, extended, stops⟩ | ⟨temporary, files, creates, written⟩
  · refine Or.inl ⟨extended, ?_⟩
    rintro l ⟨-, temporary, files, creates, -⟩
    exact stops temporary files creates
  · rw [written] at failed ⊢
    split at failed
    · rename_i error unencoded
      cases failed
      exact Or.inr ⟨temporary, error, creates, unencoded, rfl⟩
    · rename_i octets encoded
      left
      rw [files_writeBeside failed]
      have prepared := extends_parentsMade host spelled (nameable_parent creates.nameable)
      refine ⟨prepared.erase_temporary creates.created, ?_⟩
      rintro l ⟨surrogate, -⟩
      obtain ⟨error, unencoded⟩ := exists_encode_eq_error_iff.mpr surrogate
      cases encoded.symm.trans unencoded

/-- A writing that fails leaves a new file behind only where it created its temporary file for a
text with a surrogate. That file is empty, and the failure is the fault that the text has no octets.
After every other failure there is no new file, whichever step fails. -/
theorem new_files_of_failed_write (host : Host) (trouble : Trouble) (salt raw content : Text)
    {problem : Problem}
    (failed : (host.write trouble salt (Path.ofText raw) content).outcome = .error problem)
    (l : Location) :
    (host.files.IsNewFile (host.write trouble salt (Path.ofText raw) content).files l ↔
        host.LeavesAt trouble salt (Path.ofText raw) content l) ∧
      (host.files.IsNewFile (host.write trouble salt (Path.ofText raw) content).files l →
        (host.write trouble salt (Path.ofText raw) content).files.get? l =
            some (.file ByteArray.empty) ∧
          ∃ error, problem = .fault (.unencodable error)) := by
  have spelled := Path.spelled_ofText raw
  rcases failed_write_cases spelled failed with
    ⟨extended, leavesNothing⟩ | ⟨temporary, error, creates, unencoded, rfl⟩
  · have noNewFile := extended.not_isNewFile (l := l)
    exact ⟨iff_of_false noNewFile (leavesNothing l), fun newFile => absurd newFile noNewFile⟩
  · have surrogate := exists_encode_eq_error_iff.mp ⟨error, unencoded⟩
    rw [creates.isNewFile_iff spelled]
    constructor
    · constructor
      · intro place
        exact ⟨surrogate, temporary, _, creates, place⟩
      · rintro ⟨-, other, files, otherCreates, place⟩
        rw [place, creates.unique otherCreates]
    · rintro rfl
      refine ⟨?_, error, rfl⟩
      obtain ⟨-, -, ⟨members, above⟩, -, placed⟩ := createTemporary_cases creates.created
      rw [placed]
      exact FileSystem.get?_put_self above

/-- A disk that is full when the temporary file is to be written. -/
def fullDisk : Trouble
  | .writeContent => some ⟨.noSpace, none, none⟩
  | _ => none

/-- A host without files. -/
def emptyHost : Host := {}

theorem new_files_of_failed_write_fullDisk :
    ∃ problem,
      (emptyHost.write fullDisk "12345678" (Path.ofText "out/deps.js") "new").outcome =
          .error problem ∧
        (emptyHost.write fullDisk "12345678" (Path.ofText "out/deps.js") "new").files.outline
          ["out"] = some (.directory []) ∧
        ∀ l, ¬emptyHost.files.IsNewFile
          (emptyHost.write fullDisk "12345678" (Path.ofText "out/deps.js") "new").files l := by
  refine ⟨_, rfl, rfl, fun l newFile => ?_⟩
  have noSurrogate : ("new" : Text).any CodePoint.isSurrogate = false := rfl
  obtain ⟨⟨c, member, surrogate⟩, -⟩ :=
    (new_files_of_failed_write emptyHost fullDisk "12345678" "out/deps.js" "new" rfl l).1.mp newFile
  rw [List.any_eq_true.mpr ⟨c, member, surrogate⟩] at noSurrogate
  cases noSurrogate

/-- A namespace that is half of a pair cannot be written, and the temporary file stays. -/
theorem temporary_left_halfPair :
    (emptyHost.write (fun _ => none) "12345678" (Path.ofText "deps.js") [0xD800]).outcome =
        .error (.fault (.unencodable ⟨0, 1, 0xD800⟩)) ∧
      emptyHost.files.IsNewFile
        (emptyHost.write (fun _ => none) "12345678" (Path.ofText "deps.js") [0xD800]).files
        [".deps.js.12345678.tmp"] :=
  ⟨rfl, ⟨ByteArray.empty, rfl⟩, nofun⟩

end Host

end NamespaceScan
