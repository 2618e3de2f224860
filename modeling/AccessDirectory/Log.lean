/-! Lines of the service log. A line is kept if it is at least as severe as a threshold. What directories
and collections note for debugging is left out. -/

namespace AccessDirectory

inductive Severity
  | debug
  | info
  | warning
  | error
  | critical
deriving DecidableEq, Repr

namespace Severity

def all : List Severity := [debug, info, warning, error, critical]

def name : Severity → String
  | debug => "DEBUG"
  | info => "INFO"
  | warning => "WARNING"
  | error => "ERROR"
  | critical => "CRITICAL"

def ofName? (s : String) : Option Severity := all.find? (·.name = s)

theorem ofName?_name (s : Severity) : ofName? s.name = some s := by cases s <;> decide

theorem isSome_ofName?_iff {given : String} :
    (ofName? given).isSome ↔ ∃ s : Severity, given = s.name := by
  constructor
  · intro h
    obtain ⟨s, hs⟩ := Option.isSome_iff_exists.1 h
    have hname : s.name = given := by simpa using List.find?_some hs
    exact ⟨s, hname.symm⟩
  · rintro ⟨s, rfl⟩
    rw [ofName?_name, Option.isSome_some]

def rank : Severity → Nat
  | debug => 10
  | info => 20
  | warning => 30
  | error => 40
  | critical => 50

def reaches (s threshold : Severity) : Bool := threshold.rank ≤ s.rank

end Severity

structure LogLine where
  severity : Severity
  text : String
deriving DecidableEq, Repr

def writeLine (threshold : Severity) (log : List LogLine) (line : LogLine) : List LogLine :=
  if line.severity.reaches threshold then log ++ [line] else log

end AccessDirectory
