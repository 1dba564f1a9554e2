import NamespaceScan.Proofs.OrderedSet
import NamespaceScan.Settings.Basic

/-!
# The checks of a section

A section gives settings exactly when it has no unknown keys and each option that it sets has a
value that can be read: a list of texts for the extensions, with at least one of them, a list of
texts for the excluded directories, and a truth value for the strictness. Any other section is
refused for the first thing that is wrong with it, in the order of the checks.
-/

namespace NamespaceScan.Settings

variable {path key : Text} {body : List (Text × Value)} {value : Value} {failure : Failure}

/-! ## Options -/

section Options

variable {α : Type} {default a : α} {reads : Value → α → Prop}

/-- The option is missing, or its value can be read. -/
def CanSet (body : List (Text × Value)) (key : Text) (reads : Value → α → Prop) : Prop :=
  ∀ value, Value.find? body key = some value → ∃ a, reads value a

/-- What an option comes to: the default when its key is missing, else what its value is read
as. -/
inductive Sets (body : List (Text × Value)) (key : Text) (default : α)
    (reads : Value → α → Prop) : α → Prop where
  | absent (missing : Value.find? body key = none) : Sets body key default reads default
  | present {value : Value} {a : α} (found : Value.find? body key = some value)
      (read : reads value a) : Sets body key default reads a

theorem sets_of_find?_eq_none (missing : Value.find? body key = none) :
    Sets body key default reads a ↔ a = default := by
  constructor
  · intro sets
    cases sets with
    | absent => rfl
    | present found => cases missing.symm.trans found
  · rintro rfl
    exact Sets.absent missing

theorem sets_of_find?_eq_some (found : Value.find? body key = some value) :
    Sets body key default reads a ↔ reads value a := by
  constructor
  · intro sets
    cases sets with
    | absent missing => cases missing.symm.trans found
    | present other read =>
        cases other.symm.trans found
        exact read
  · exact Sets.present found

theorem exists_sets_iff : (∃ a, Sets body key default reads a) ↔ CanSet body key reads := by
  constructor
  · rintro ⟨a, sets⟩ value found
    exact ⟨a, (sets_of_find?_eq_some found).mp sets⟩
  · intro canSet
    cases found : Value.find? body key with
    | none => exact ⟨default, Sets.absent found⟩
    | some value =>
        obtain ⟨a, read⟩ := canSet value found
        exact ⟨a, Sets.present found read⟩

end Options

/-! ## Values -/

/-- The value is the list of the texts. -/
def ReadsTexts (value : Value) (texts : List Text) : Prop := value = .list (texts.map .text)

/-- The value lists extensions, at least one, in any spelling. -/
def ReadsExtensions (value : Value) (extensions : List Text) : Prop :=
  ∃ texts, texts ≠ [] ∧ ReadsTexts value texts ∧ extensions = texts.map normalizeExtension

/-- The value is the truth value. -/
def ReadsBool (value : Value) (b : Bool) : Prop := value = .bool b

theorem asText?_eq_some_iff {t : Text} : asText? value = some t ↔ value = .text t := by
  cases value <;> simp [asText?]

theorem mapM_asText?_eq_some_iff {items : List Value} {texts : List Text} :
    items.mapM asText? = some texts ↔ items = texts.map .text := by
  induction items generalizing texts with
  | nil => cases texts <;> simp
  | cons item rest ih =>
      rw [List.mapM_cons]
      simp only [Option.bind_eq_bind, Option.pure_def, Option.bind_eq_some_iff,
        asText?_eq_some_iff, ih, Option.some.injEq]
      constructor
      · rintro ⟨t, rfl, others, rfl, rfl⟩
        rfl
      · intro listed
        cases texts with
        | nil => cases listed
        | cons t others =>
            obtain ⟨first, later⟩ := List.cons.inj listed
            exact ⟨t, first, others, later, rfl⟩

theorem texts?_eq_some_iff {texts : List Text} :
    texts? value = some texts ↔ ReadsTexts value texts := by
  unfold ReadsTexts
  cases value with
  | list items => rw [texts?, mapM_asText?_eq_some_iff, Value.list.injEq]
  | _ => simp [texts?]

/-- The refusal of a value that is no list of texts. -/
def notTexts (path option : Text) (value : Value) : Failure :=
  .config (.text (Text.concat [option, " must be a list of strings, got ", value.typeWord]))
    (some path) (some option)

/-- The refusal of a list without extensions. -/
def noExtensions (path : Text) : Failure :=
  .config (.text "extensions must not be empty") (some path) (some "extensions")

/-- The refusal of a value that is no truth value. -/
def notBool (path : Text) (value : Value) : Failure :=
  .config (.text (Text.concat ["strict must be a boolean, got ", value.typeWord])) (some path)
    (some "strict")

theorem textList_eq_ok_iff {option : Text} {texts : List Text} :
    textList path option value = .ok texts ↔ ReadsTexts value texts := by
  rw [← texts?_eq_some_iff, textList]
  cases texts? value <;> simp [refuse]

theorem textList_eq_error_iff {option : Text} :
    textList path option value = .error failure ↔
      (∀ texts, ¬ReadsTexts value texts) ∧ failure = notTexts path option value := by
  simp only [← texts?_eq_some_iff, textList]
  cases texts? value <;> simp [refuse, notTexts, eq_comm]

/-! ## Each option -/

theorem bind_eq_ok_iff {ε α β : Type} {first : Except ε α} {next : α → Except ε β} {b : β} :
    first.bind next = .ok b ↔ ∃ a, first = .ok a ∧ next a = .ok b := by
  cases first <;> simp [Except.bind]

theorem bind_eq_error_iff {ε α β : Type} {first : Except ε α} {next : α → Except ε β} {e : ε} :
    first.bind next = .error e ↔ first = .error e ∨ ∃ a, first = .ok a ∧ next a = .error e := by
  cases first <;> simp [Except.bind]

theorem extensionsOf_eq_ok_iff {extensions : List Text} :
    extensionsOf path body = .ok extensions ↔
      Sets body "extensions" ({} : Settings).extensions ReadsExtensions extensions := by
  unfold extensionsOf
  split
  · rename_i missing
    rw [sets_of_find?_eq_none missing, Except.ok.injEq, eq_comm]
  · rename_i value found
    rw [sets_of_find?_eq_some found, bind_eq_ok_iff]
    simp only [textList_eq_ok_iff]
    constructor
    · rintro ⟨texts, read, checked⟩
      cases texts with
      | nil => cases checked
      | cons t texts =>
          cases checked
          exact ⟨t :: texts, List.cons_ne_nil t texts, read, rfl⟩
    · rintro ⟨texts, some, read, rfl⟩
      refine ⟨texts, read, if_neg ?_⟩
      simpa using some

theorem extensionsOf_eq_error_iff :
    extensionsOf path body = .error failure ↔
      ∃ value, Value.find? body "extensions" = some value ∧
        ((∀ texts, ¬ReadsTexts value texts) ∧ failure = notTexts path "extensions" value ∨
          value = .list [] ∧ failure = noExtensions path) := by
  unfold extensionsOf
  split
  · rename_i missing
    simp [missing]
  · rename_i value found
    rw [bind_eq_error_iff]
    simp only [textList_eq_ok_iff, textList_eq_error_iff, found, Option.some.injEq,
      exists_eq_left']
    refine or_congr Iff.rfl ⟨?_, ?_⟩
    · rintro ⟨texts, read, checked⟩
      cases texts with
      | nil =>
          cases checked
          exact ⟨read, rfl⟩
      | cons t texts => cases checked
    · rintro ⟨rfl, rfl⟩
      exact ⟨[], rfl, rfl⟩

theorem excludedOf_eq_ok_iff {excluded : List Text} :
    excludedOf path body = .ok excluded ↔
      Sets body "exclude_dirs" ({} : Settings).excluded ReadsTexts excluded := by
  unfold excludedOf
  split
  · rename_i missing
    rw [sets_of_find?_eq_none missing, Except.ok.injEq, eq_comm]
  · rename_i value found
    rw [sets_of_find?_eq_some found, textList_eq_ok_iff]

theorem excludedOf_eq_error_iff :
    excludedOf path body = .error failure ↔
      ∃ value, Value.find? body "exclude_dirs" = some value ∧
        (∀ texts, ¬ReadsTexts value texts) ∧ failure = notTexts path "exclude_dirs" value := by
  unfold excludedOf
  split
  · rename_i missing
    simp [missing]
  · rename_i value found
    simp [found, textList_eq_error_iff]

theorem strictOf_eq_ok_iff {strict : Bool} :
    strictOf path body = .ok strict ↔
      Sets body "strict" ({} : Settings).strict ReadsBool strict := by
  unfold strictOf
  split
  · rename_i missing
    rw [sets_of_find?_eq_none missing, Except.ok.injEq, eq_comm]
  · rename_i b found
    rw [sets_of_find?_eq_some found, ReadsBool, Except.ok.injEq, Value.bool.injEq]
  · rename_i value notTruth found
    have noBool : ¬ReadsBool value strict := notTruth strict
    rw [sets_of_find?_eq_some found]
    exact iff_of_false nofun noBool

theorem strictOf_eq_error_iff :
    strictOf path body = .error failure ↔
      ∃ value, Value.find? body "strict" = some value ∧ (∀ b, ¬ReadsBool value b) ∧
        failure = notBool path value := by
  unfold strictOf
  split
  · rename_i missing
    simp [missing]
  · rename_i b found
    simp [found, ReadsBool]
  · rename_i value notTruth found
    have noBool : ∀ b, ¬ReadsBool value b := notTruth
    rw [found]
    simp only [Option.some.injEq, exists_eq_left']
    rw [and_iff_right noBool, refuse, Except.error.injEq, eq_comm, notBool]

/-! ## Keys -/

/-- The section has no keys but the known ones. -/
def KeysKnown (body : List (Text × Value)) : Prop := ∀ entry ∈ body, entry.1 ∈ knownKeys

theorem mem_unknownKeys_iff : key ∈ unknownKeys body ↔ key ∈ body.map (·.1) ∧ key ∉ knownKeys := by
  rw [unknownKeys, OrderedSet.mem_ofList_iff, List.mem_filter]
  simp

theorem isEmpty_unknownKeys_iff : (unknownKeys body).isEmpty = true ↔ KeysKnown body := by
  rw [OrderedSet.isEmpty, List.isEmpty_iff, List.eq_nil_iff_forall_not_mem]
  constructor
  · intro none entry member
    by_contra unknown
    exact none entry.1 (mem_unknownKeys_iff.mpr ⟨List.mem_map_of_mem member, unknown⟩)
  · intro known key member
    obtain ⟨inside, unknown⟩ := mem_unknownKeys_iff.mp member
    obtain ⟨entry, listed, rfl⟩ := List.mem_map.mp inside
    exact unknown (known entry listed)

/-- The refusal of a section with the unknown keys. -/
def unknown (path : Text) (keys : List Text) : Failure :=
  .config (.text (Text.concat ["Unknown configuration keys: ", Text.joinWith ", " keys]))
    (some path) none

/-- The checks in their order. -/
theorem ofEntries_eq (path : Text) (body : List (Text × Value)) :
    ofEntries path body =
      if (unknownKeys body).isEmpty then
        (extensionsOf path body).bind fun extensions =>
          (excludedOf path body).bind fun excluded =>
            (strictOf path body).bind fun strict => .ok { extensions, excluded, strict }
      else .error (unknown path (unknownKeys body).toList) := by
  unfold ofEntries
  dsimp only
  cases (unknownKeys body).isEmpty <;> rfl

/-! ## Sections -/

/-- The settings that a section gives. -/
structure Describes (body : List (Text × Value)) (s : Settings) : Prop where
  extensions : Sets body "extensions" ({} : Settings).extensions ReadsExtensions s.extensions
  excluded : Sets body "exclude_dirs" ({} : Settings).excluded ReadsTexts s.excluded
  strict : Sets body "strict" ({} : Settings).strict ReadsBool s.strict
  source : s.source = none

/-- A section without unknown keys whose options can all be read. -/
structure IsValid (body : List (Text × Value)) : Prop where
  known : KeysKnown body
  extensions : CanSet body "extensions" ReadsExtensions
  excluded : CanSet body "exclude_dirs" ReadsTexts
  strict : CanSet body "strict" ReadsBool

/-- What a section is refused for. All checks before the one that refuses it have passed. -/
inductive Refused (path : Text) (body : List (Text × Value)) : Failure → Prop where
  | unknown {keys : List Text} (some : keys ≠ []) (increasing : keys.Pairwise (· < ·))
      (listed : ∀ key, key ∈ keys ↔ key ∈ body.map (·.1) ∧ key ∉ knownKeys) :
      Refused path body (unknown path keys)
  | extensions {value : Value} (known : KeysKnown body)
      (found : Value.find? body "extensions" = some value)
      (noTexts : ∀ texts, ¬ReadsTexts value texts) :
      Refused path body (notTexts path "extensions" value)
  | noExtensions (known : KeysKnown body)
      (found : Value.find? body "extensions" = some (.list [])) :
      Refused path body (noExtensions path)
  | excluded {value : Value} (known : KeysKnown body)
      (extensions : CanSet body "extensions" ReadsExtensions)
      (found : Value.find? body "exclude_dirs" = some value)
      (noTexts : ∀ texts, ¬ReadsTexts value texts) :
      Refused path body (notTexts path "exclude_dirs" value)
  | strict {value : Value} (known : KeysKnown body)
      (extensions : CanSet body "extensions" ReadsExtensions)
      (excluded : CanSet body "exclude_dirs" ReadsTexts)
      (found : Value.find? body "strict" = some value) (noBool : ∀ b, ¬ReadsBool value b) :
      Refused path body (notBool path value)

theorem ofEntries_eq_ok_iff {s : Settings} :
    ofEntries path body = .ok s ↔ KeysKnown body ∧ Describes body s := by
  rw [ofEntries_eq, ← isEmpty_unknownKeys_iff]
  cases (unknownKeys body).isEmpty with
  | false => simp
  | true =>
      simp only [if_true, true_and, bind_eq_ok_iff, extensionsOf_eq_ok_iff, excludedOf_eq_ok_iff,
        strictOf_eq_ok_iff]
      constructor
      · rintro ⟨extensions, first, excluded, second, strict, third, ⟨⟩⟩
        exact ⟨first, second, third, rfl⟩
      · rintro ⟨first, second, third, noSource⟩
        obtain ⟨extensions, excluded, strict, source⟩ := s
        cases noSource
        exact ⟨extensions, first, excluded, second, strict, third, rfl⟩

theorem exists_ofEntries_eq_ok_iff :
    (∃ s, ofEntries path body = .ok s) ↔ IsValid body := by
  simp only [ofEntries_eq_ok_iff]
  constructor
  · rintro ⟨s, known, describes⟩
    exact ⟨known, exists_sets_iff.mp ⟨_, describes.extensions⟩,
      exists_sets_iff.mp ⟨_, describes.excluded⟩, exists_sets_iff.mp ⟨_, describes.strict⟩⟩
  · intro valid
    obtain ⟨extensions, first⟩ := exists_sets_iff.mpr valid.extensions
    obtain ⟨excluded, second⟩ := exists_sets_iff.mpr valid.excluded
    obtain ⟨strict, third⟩ := exists_sets_iff.mpr valid.strict
    exact ⟨{ extensions, excluded, strict }, valid.known, first, second, third, rfl⟩

/-- A refused section is refused for the first thing that is wrong with it. -/
theorem refused_of_ofEntries (refused : ofEntries path body = .error failure) :
    Refused path body failure := by
  rw [ofEntries_eq] at refused
  split at refused
  · rename_i noUnknown
    have known := isEmpty_unknownKeys_iff.mp noUnknown
    rcases bind_eq_error_iff.mp refused with first | ⟨extensions, first, refused⟩
    · obtain ⟨value, found, ⟨noTexts, rfl⟩ | ⟨rfl, rfl⟩⟩ := extensionsOf_eq_error_iff.mp first
      · exact Refused.extensions known found noTexts
      · exact Refused.noExtensions known found
    have canSetExtensions := exists_sets_iff.mp ⟨_, extensionsOf_eq_ok_iff.mp first⟩
    rcases bind_eq_error_iff.mp refused with second | ⟨excluded, second, refused⟩
    · obtain ⟨value, found, noTexts, rfl⟩ := excludedOf_eq_error_iff.mp second
      exact Refused.excluded known canSetExtensions found noTexts
    have canSetExcluded := exists_sets_iff.mp ⟨_, excludedOf_eq_ok_iff.mp second⟩
    rcases bind_eq_error_iff.mp refused with third | ⟨strict, third, refused⟩
    · obtain ⟨value, found, noBool, rfl⟩ := strictOf_eq_error_iff.mp third
      exact Refused.strict known canSetExtensions canSetExcluded found noBool
    · cases refused
  · rename_i someUnknown
    cases refused
    refine Refused.unknown ?_ (unknownKeys body).increasing fun key => mem_unknownKeys_iff
    intro none
    rw [OrderedSet.isEmpty, none] at someUnknown
    exact someUnknown rfl

theorem ofEntries_of_refused (refused : Refused path body failure) :
    ofEntries path body = .error failure := by
  rw [ofEntries_eq]
  cases refused with
  | @unknown keys some increasing listed =>
      have same : unknownKeys body = ⟨keys, increasing⟩ :=
        OrderedSet.ext_mem fun key => mem_unknownKeys_iff.trans (listed key).symm
      rw [same, if_neg]
      simpa [OrderedSet.isEmpty] using some
  | extensions known found noTexts =>
      have first : extensionsOf path body = .error _ :=
        extensionsOf_eq_error_iff.mpr ⟨_, found, Or.inl ⟨noTexts, rfl⟩⟩
      rw [if_pos (isEmpty_unknownKeys_iff.mpr known), first]
      rfl
  | noExtensions known found =>
      have first : extensionsOf path body = .error _ :=
        extensionsOf_eq_error_iff.mpr ⟨_, found, Or.inr ⟨rfl, rfl⟩⟩
      rw [if_pos (isEmpty_unknownKeys_iff.mpr known), first]
      rfl
  | excluded known canSetExtensions found noTexts =>
      obtain ⟨extensions, sets⟩ := exists_sets_iff.mpr canSetExtensions
      have second : excludedOf path body = .error _ :=
        excludedOf_eq_error_iff.mpr ⟨_, found, noTexts, rfl⟩
      rw [if_pos (isEmpty_unknownKeys_iff.mpr known), extensionsOf_eq_ok_iff.mpr sets, second]
      rfl
  | strict known canSetExtensions canSetExcluded found noBool =>
      obtain ⟨extensions, setsExtensions⟩ := exists_sets_iff.mpr canSetExtensions
      obtain ⟨excluded, setsExcluded⟩ := exists_sets_iff.mpr canSetExcluded
      have third : strictOf path body = .error _ :=
        strictOf_eq_error_iff.mpr ⟨_, found, noBool, rfl⟩
      rw [if_pos (isEmpty_unknownKeys_iff.mpr known), extensionsOf_eq_ok_iff.mpr setsExtensions,
        excludedOf_eq_ok_iff.mpr setsExcluded, third]
      rfl

/-- A section is accepted exactly when it is valid, and gives the settings that it describes. Any
other section is refused for the first thing that is wrong with it: its unknown keys in order,
then its extensions, its excluded directories and its strictness. -/
theorem accepted_or_refused (path : Text) (body : List (Text × Value)) :
    ((∃ s, ofEntries path body = .ok s) ↔ IsValid body) ∧
      (∀ s, ofEntries path body = .ok s ↔ IsValid body ∧ Describes body s) ∧
      ∀ failure, ofEntries path body = .error failure ↔ Refused path body failure := by
  refine ⟨exists_ofEntries_eq_ok_iff, fun s => ?_,
    fun failure => ⟨refused_of_ofEntries, ofEntries_of_refused⟩⟩
  constructor
  · intro accepted
    exact ⟨exists_ofEntries_eq_ok_iff.mp ⟨s, accepted⟩, (ofEntries_eq_ok_iff.mp accepted).2⟩
  · rintro ⟨valid, describes⟩
    exact ofEntries_eq_ok_iff.mpr ⟨valid.known, describes⟩

/-- Of several faults, unknown keys come first. -/
example :
    ofEntries "a.toml" [("zeal", .null), ("strict", .int 1), ("eager", .bool true)] =
      .error (unknown "a.toml" ["eager", "zeal"]) :=
  rfl

end NamespaceScan.Settings
