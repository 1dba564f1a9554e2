import NamespaceScan.Command.Run
import NamespaceScan.Proofs.Screens
import NamespaceScan.Proofs.Utf8

/-!
# Runs that come to a scan

A run whose words are understood and whose settings are loaded is decided by the scan: it
ends as the scan ends, leaves the files that the scan leaves, and has the results of the
scan. All else that it shows are records, which stand with the complaints.
-/

namespace NamespaceScan.Command

/-! ## Results -/

variable (screen : Console.Screen) (env : Environment)

/-- What is printed as results of events. -/
def resultsOf (events : List Event) : Text :=
  events.flatMap fun event => (event.output screen env).results

@[simp]
theorem resultsOf_append (front back : List Event) :
    resultsOf screen env (front ++ back) =
      resultsOf screen env front ++ resultsOf screen env back :=
  List.flatMap_append

@[simp]
theorem resultsOf_records (entries : List Log.Record) :
    resultsOf screen env (entries.map Event.record) = [] := by
  induction entries with
  | nil => rfl
  | cons entry rest ih => exact ih

/-- A terminal makes a difference to complaints only. -/
@[simp]
theorem results_output (terminal : Bool) (event : Event) :
    (event.output screen env terminal).results = (event.output screen env).results := by
  cases event <;> rfl

@[simp]
theorem results_append (a b : Console.Output) : (a ++ b).results = a.results ++ b.results :=
  rfl

/-- The log adds nothing to the results. -/
theorem results_printed (registry : Log.Registry) (terminal : Bool) (around : Log.Surroundings)
    (events : List Event) :
    (printed screen registry env terminal around events).results =
      resultsOf screen env events := by
  have added : ∀ before : Console.Output,
      (events.foldl (fun output event => output ++
        event.printed screen registry env terminal around) before).results =
        before.results ++ resultsOf screen env events := by
    induction events with
    | nil => simp [resultsOf]
    | cons event rest ih =>
        intro before
        rw [List.foldl_cons, ih]
        simp [resultsOf, Event.printed]
  simpa [printed] using added {}

/-! ## Endings -/

namespace Ending

@[simp]
theorem number_exit_done : done.exit.number = 0 :=
  rfl

@[simp]
theorem number_exit_given : given.exit.number = 1 :=
  rfl

@[simp]
theorem number_exit_unexpected (message : Text) : (unexpected message).exit.number = 1 :=
  rfl

@[simp]
theorem number_exit_misuse (topic : Topic) (reason : Text) :
    (misuse topic reason).exit.number = 2 :=
  rfl

end Ending

/-! ## Printing -/

namespace ScanOptions

variable {context : ScanContext} {fault : Utf8.EncodeError → Fault} {text : Text}

theorem print_of_isEncodable (encodable : text.IsEncodable) (rest : List Event × Ending) :
    print fault text rest = (.results text :: rest.1, rest.2) := by
  have free : Utf8.firstSurrogates 0 text = none := Utf8.firstSurrogates_eq_none_iff.mpr encodable
  rw [print, free]

theorem print_of_not_isEncodable (surrogates : ¬text.IsEncodable) (rest : List Event × Ending) :
    ∃ message, print fault text rest = ([], .unexpected message) := by
  cases first : Utf8.firstSurrogates 0 text with
  | none => exact absurd (Utf8.firstSurrogates_eq_none_iff.mp first) surrogates
  | some error =>
      rw [print, first]
      exact ⟨_, rfl⟩

/-- After a scan that has succeeded its records are presented. -/
theorem run_eq_present {host : Host} {options : ScanOptions}
    {render : Location → Path → List Dependencies → Text} {base : Location}
    {records : List Dependencies} (rendered : options.format.render? = some render)
    (resolved : host.resolve (options.base.getD (Path.ofLocation host.cwd)) = .ok base)
    (scanned : ((options.scanner context).scan host options.targets).outcome = .ok records) :
    options.run context host =
      { present context host options (Path.ofLocation base) (options.listed records) with
        events := ((options.scanner context).scan host options.targets).log.map Event.record ++
          (present context host options (Path.ofLocation base)
            (options.listed records)).events } := by
  have notTable : options.format ≠ .table := by
    intro isTable
    rw [isTable] at rendered
    cases rendered
  simp only [run, notTable, false_and, if_false, resolved, scanned]

end ScanOptions

/-! ## Calls -/

namespace Machine

/-- The words come to a scan: the frontend understands them as options of the program and of the
scan, and the settings are loaded. -/
structure CallsScan (m : Machine) (arguments : List Text) (options : ProgramOptions)
    (settings : Settings) (wishes : ScanOptions) : Prop where
  understood : ∃ rest,
    m.frontend.program m.host m.environment arguments = .ok (options, rest) ∧
      m.frontend.scan m.host (withColor m.environment options.color) rest = .ok wishes
  loaded : (Settings.load m.reader m.host options.config).outcome = .ok settings

variable {m : Machine} {arguments : List Text} {options : ProgramOptions} {settings : Settings}
  {wishes : ScanOptions}

theorem CallsScan.run_eq (called : m.CallsScan arguments options settings wishes) :
    ∃ rest, m.run arguments = m.runWith options rest ∧
      m.runCommand settings options rest = wishes.run (m.context settings options) m.host := by
  obtain ⟨rest, read, asked⟩ := called.understood
  exact ⟨rest, by rw [run, read], by rw [runCommand, asked]⟩

/-- The run ends as the scan ends. -/
theorem CallsScan.exit_run (called : m.CallsScan arguments options settings wishes) :
    (m.run arguments).exit = (wishes.run (m.context settings options) m.host).ending.exit := by
  obtain ⟨rest, run, scanned⟩ := called.run_eq
  rw [run, runWith]
  simp only [called.loaded, scanned]

/-- The run has the results of the scan. -/
theorem CallsScan.results_run (called : m.CallsScan arguments options settings wishes) :
    (m.run arguments).output.results =
      resultsOf m.screen (withColor m.environment options.color)
        ((wishes.run (m.context settings options) m.host).events ++
          (wishes.run (m.context settings options) m.host).ending.events) := by
  obtain ⟨rest, run, scanned⟩ := called.run_eq
  rw [run, runWith]
  simp only [called.loaded, scanned, results_append, Machine.printed, results_printed,
    resultsOf_append, resultsOf_records, greeting, List.nil_append, List.append_assoc]

end Machine

end NamespaceScan.Command
