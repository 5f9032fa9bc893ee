/-!
# Environment variables

Variables with their values, each name once.
-/

set_option autoImplicit false

namespace MessageBroker

/-- Variables and their values. -/
structure Environment where
  entries : List (String × String) := []
  deriving DecidableEq, Repr

namespace Environment

/-- Value of a variable. -/
def find? (environment : Environment) (name : String) : Option String :=
  environment.entries.lookup name

/-- Sets a variable that is not set; a set one, even to an empty text, keeps its value. -/
def setIfMissing (environment : Environment) (name value : String) : Environment :=
  match environment.find? name with
  | some _ => environment
  | none => ⟨environment.entries ++ [(name, value)]⟩

theorem find?_setIfMissing (environment : Environment) (name value other : String) :
    (environment.setIfMissing name value).find? other =
      (environment.find? other).or (if other = name then some value else none) := by
  unfold setIfMissing
  split
  · rename_i present
    by_cases same : other = name
    · subst same
      simp [present]
    · simp [same]
  · simp only [find?, List.lookup_append, List.lookup_cons, List.lookup_nil]
    by_cases same : other = name
    · simp [same]
    · simp [same, beq_eq_false_iff_ne.mpr same]

end Environment

end MessageBroker
