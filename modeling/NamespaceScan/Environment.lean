import NamespaceScan.Text.Basic

/-!
# Environment entries

The named texts that a program is started with. They say, among other things,
whether output may be colored: a variable without content asks for nothing.
-/

namespace NamespaceScan

/-- Named texts; the first value of a name counts. -/
structure Environment where
  entries : List (Text × Text) := []

namespace Environment

/-- The value of a variable. -/
def get? (env : Environment) (name : Text) : Option Text :=
  (env.entries.find? fun entry => entry.1 = name).map (·.2)

/-- The environment without a variable. -/
def erase (env : Environment) (name : Text) : Environment :=
  ⟨env.entries.filter fun entry => entry.1 ≠ name⟩

/-- Give a variable a value. -/
def set (env : Environment) (name value : Text) : Environment :=
  ⟨(name, value) :: (env.erase name).entries⟩

/-- A variable that is set and has content. -/
def content? (env : Environment) (name : Text) : Option Text :=
  (env.get? name).filter fun value => !value.isEmpty

/-- The variable that forbids colors. -/
def noColor : Text := "NO_COLOR"

/-- The variable that says that no person reads the output. -/
def automated : Text := "CI"

/-- Whether output may be colored, given whether it goes to a terminal. -/
def allowsColor (env : Environment) (terminal : Bool) : Bool :=
  (env.content? noColor).isNone && (env.content? automated).isNone && terminal

theorem get?_set_self (env : Environment) (name value : Text) :
    (env.set name value).get? name = some value := by
  simp [get?, set]

theorem get?_erase_self (env : Environment) (name : Text) : (env.erase name).get? name = none := by
  simp [get?, erase]

end Environment

end NamespaceScan
