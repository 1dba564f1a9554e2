import NamespaceScan.Proofs.Reading
import NamespaceScan.Proofs.SectionChecks
import NamespaceScan.Settings.Loading

/-!
# Settings files

What a settings file comes to when it is read, when it is searched for the program's section
and when the section is checked, for any reader of tables. Refusals are failures about settings;
what else can go wrong is a fault of the reader, or of a value that is no table.
-/

namespace NamespaceScan

/-- The failure is one about settings. -/
def Failure.IsConfig (f : Failure) : Prop := ∃ message path option, f = .config message path option

@[simp]
theorem mapError_ok {ε ε' α : Type} (f : ε → ε') (a : α) :
    (Except.ok a : Except ε α).mapError f = .ok a :=
  rfl

@[simp]
theorem mapError_error {ε ε' α : Type} (f : ε → ε') (e : ε) :
    (Except.error e : Except ε α).mapError f = .error (f e) :=
  rfl

namespace Settings

variable {reader : Toml.TableReader} {host : Host} {file : Path} {fault : Fault}
  {failure : Failure}

/-! ## Sections -/

section

variable {path : Text} {body : List (Text × Value)}

/-- A section that is a table is refused with a failure about the settings. -/
theorem Refused.isConfig (refused : Refused path body failure) : failure.IsConfig := by
  cases refused <;> exact ⟨_, _, _, rfl⟩

theorem ofSection_eq_ok_iff {value : Value} {settings : Settings} :
    ofSection path value = .ok settings ↔
      ∃ entries, value = .table entries ∧ ofEntries path entries = .ok settings := by
  unfold ofSection
  split
  · rename_i entries
    cases read : ofEntries path entries <;> simp [read]
  · rename_i noTable
    refine iff_of_false nofun ?_
    rintro ⟨entries, isTable, -⟩
    exact noTable entries isTable

end

/-! ## Files -/

/-- A file with the given octets, or a link to one, stands at the path. -/
def Holds (host : Host) (file : Path) (octets : ByteArray) : Prop :=
  ∃ l, host.find file.toText = .ok ⟨l, .file octets⟩

/-- The octets of the file at the path are read as the table. -/
def Spells (reader : Toml.TableReader) (host : Host) (file : Path) (table : Toml.Table) : Prop :=
  ∃ octets, Holds host file octets ∧ reader octets = .ok table

theorem octetsOf_eq_ok_iff {octets : ByteArray} :
    octetsOf host file = .ok octets ↔ Holds host file octets := by
  unfold octetsOf Holds
  split
  · rename_i found
    simp [found]
  · rename_i spot found
    obtain ⟨l, entry⟩ := spot
    cases entry <;> simp [found]

theorem isFileAt_eq_ok_true_iff :
    isFileAt host file = .ok true ↔ ∃ octets, Holds host file octets := by
  unfold isFileAt Host.look Holds
  split
  · rename_i spot found
    obtain ⟨l, entry⟩ := spot
    cases entry <;> simp [found, Except.map, Entry.isFile]
  · rename_i long
    simp [long, Except.map]
  · rename_i obstacle _ found
    simp [found, Except.map]

theorem isFileAt_eq_error_iff {problem : Problem} :
    isFileAt host file = .error problem ↔
      host.find file.toText = .error .nameTooLong ∧
        problem = .fault (.refused ⟨.nameTooLong, file.toText, none⟩) := by
  unfold isFileAt
  cases seen : host.look file with
  | error fault =>
      obtain ⟨long, rfl⟩ := Host.look_eq_error_iff.mp seen
      simp [long, Except.map, eq_comm]
  | ok spot =>
      have short : host.find file.toText ≠ .error .nameTooLong := by
        intro long
        have refused := Host.look_eq_error_iff.mpr ⟨long, rfl⟩
        cases seen.symm.trans refused
      simp [short, Except.map]

theorem isFileAt_of_holds {octets : ByteArray} (held : Holds host file octets) :
    isFileAt host file = .ok true :=
  isFileAt_eq_ok_true_iff.mpr ⟨octets, held⟩

/-- What reading a settings file comes to, and why. -/
inductive Reading (reader : Toml.TableReader) (host : Host) (file : Path) :
    Except Problem Toml.Table → Prop where
  | refused {refusal : Refusal} (refused : octetsOf host file = .error refusal) :
      Reading reader host file
        (.error (unusable file
          ["Cannot read configuration file ", file.toText, ": ", refusal.message]))
  | malformed {octets : ByteArray} {message : Text} (held : Holds host file octets)
      (malformed : reader octets = .error (.malformed message)) :
      Reading reader host file
        (.error (unusable file ["Invalid TOML in ", file.name, ": ", message]))
  | beyond {octets : ByteArray} {fault : Fault} (held : Holds host file octets)
      (failed : reader octets = .error (.beyond fault)) :
      Reading reader host file (.error (.fault fault))
  | spelt {table : Toml.Table} (spells : Spells reader host file table) :
      Reading reader host file (.ok table)

theorem readTable_eq_iff {outcome : Except Problem Toml.Table} :
    readTable reader host file = outcome ↔ Reading reader host file outcome := by
  constructor
  · rintro rfl
    unfold readTable
    split
    · rename_i refusal refused
      exact Reading.refused refused
    · rename_i octets opened
      have held := octetsOf_eq_ok_iff.mp opened
      split
      · rename_i message malformed
        exact Reading.malformed held malformed
      · rename_i fault failed
        exact Reading.beyond held failed
      · rename_i table read
        exact Reading.spelt ⟨octets, held, read⟩
  · intro reading
    cases reading with
    | refused refused => simp only [readTable, refused]
    | malformed held malformed => simp only [readTable, octetsOf_eq_ok_iff.mpr held, malformed]
    | beyond held failed => simp only [readTable, octetsOf_eq_ok_iff.mpr held, failed]
    | spelt spells =>
        obtain ⟨octets, held, read⟩ := spells
        simp only [readTable, octetsOf_eq_ok_iff.mpr held, read]

theorem readTable_eq_ok_iff {table : Toml.Table} :
    readTable reader host file = .ok table ↔ Spells reader host file table := by
  rw [readTable_eq_iff]
  exact ⟨fun | .spelt spells => spells, Reading.spelt⟩

/-- Values that can be asked for a member: tables, lists and texts. -/
inductive IsContainer : Value → Prop where
  | table (entries : List (Text × Value)) : IsContainer (.table entries)
  | list (items : List Value) : IsContainer (.list items)
  | text (t : Text) : IsContainer (.text t)

/-- The value holds the key of the program's section: as a key, as an item, or as a part. -/
inductive Mentions : Value → Prop where
  | table {entries : List (Text × Value)} {value : Value}
      (found : Value.find? entries sectionKey = some value) : Mentions (.table entries)
  | list {items : List Value} (member : .text sectionKey ∈ items) : Mentions (.list items)
  | text {t : Text} (part : t.includes sectionKey = true) : Mentions (.text t)

theorem Mentions.isContainer {value : Value} (mentioned : Mentions value) : IsContainer value := by
  cases mentioned with
  | table => exact IsContainer.table _
  | list => exact IsContainer.list _
  | text => exact IsContainer.text _

theorem mentions_of_isContainer {value : Value} (container : IsContainer value) :
    ∃ b, mentions value = .ok b ∧ (b = true ↔ Mentions value) := by
  cases container with
  | table entries =>
      refine ⟨_, rfl, ?_⟩
      rw [Option.isSome_iff_exists]
      constructor
      · rintro ⟨value, found⟩
        exact Mentions.table found
      · intro mentioned
        cases mentioned with
        | table found => exact ⟨_, found⟩
  | list items =>
      refine ⟨_, rfl, ?_⟩
      have isKey : ∀ item, asText? item = some sectionKey ↔ item = .text sectionKey := by
        intro item
        cases item <;> simp [asText?]
      rw [List.contains_iff_mem, List.mem_filterMap]
      simp only [isKey, exists_eq_right]
      refine ⟨Mentions.list, fun mentioned => ?_⟩
      cases mentioned with
      | list member => exact member
  | text t =>
      refine ⟨_, rfl, Mentions.text, fun mentioned => ?_⟩
      cases mentioned with
      | text part => exact part

theorem mentions_of_not_isContainer {value : Value} (noContainer : ¬IsContainer value) :
    mentions value = .error (.notContainer value.longTypeWord) := by
  unfold mentions
  split
  · exact absurd (IsContainer.table _) noContainer
  · exact absurd (IsContainer.list _) noContainer
  · exact absurd (IsContainer.text _) noContainer
  · rfl

theorem mentions_eq_ok_iff {value : Value} {b : Bool} :
    mentions value = .ok b ↔ IsContainer value ∧ (b = true ↔ Mentions value) := by
  by_cases container : IsContainer value
  · obtain ⟨c, asked, mentioned⟩ := mentions_of_isContainer container
    rw [asked, Except.ok.injEq, ← mentioned, ← Bool.eq_iff_iff, eq_comm]
    exact (and_iff_right container).symm
  · simp [mentions_of_not_isContainer container, container]

theorem mentions_eq_error_iff {value : Value} :
    mentions value = .error fault ↔
      ¬IsContainer value ∧ fault = .notContainer value.longTypeWord := by
  by_cases container : IsContainer value
  · obtain ⟨c, asked, -⟩ := mentions_of_isContainer container
    simp [asked, container]
  · simp [mentions_of_not_isContainer container, container, eq_comm]

/-- A project file that cannot be used counts as one without a section. -/
theorem hasSection_eq_ok_iff {b : Bool} :
    hasSection reader host file = .ok b ↔
      (∃ failure, readTable reader host file = .error (.failure failure)) ∧ b = false ∨
        ∃ table, readTable reader host file = .ok table ∧ IsContainer (tools table) ∧
          (b = true ↔ Mentions (tools table)) := by
  unfold hasSection
  split
  · rename_i failure read
    simp [read, eq_comm]
  · rename_i fault read
    simp [read]
  · rename_i table read
    rw [read]
    simp only [reduceCtorEq, Except.ok.injEq, exists_eq_left', ← mentions_eq_ok_iff]
    cases mentions (tools table) <;> simp

theorem hasSection_eq_error_iff {problem : Problem} :
    hasSection reader host file = .error problem ↔
      ∃ fault, problem = .fault fault ∧
        (readTable reader host file = .error (.fault fault) ∨
          ∃ table, readTable reader host file = .ok table ∧ ¬IsContainer (tools table) ∧
            fault = .notContainer (tools table).longTypeWord) := by
  unfold hasSection
  split
  · rename_i failure read
    simp [read]
  · rename_i fault read
    simp [read, eq_comm]
  · rename_i table read
    rw [read]
    simp only [reduceCtorEq, false_or, Except.ok.injEq, exists_eq_left', ← mentions_eq_error_iff]
    cases mentions (tools table) <;> simp [eq_comm]

end Settings

end NamespaceScan
