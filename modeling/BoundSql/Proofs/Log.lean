import BoundSql.Proofs.Truncation

/-!
# What a build logs

A build writes one event into the log, whatever its outcome. The event of a rejected statement has the
wording of the error, that of a built statement the number of its values and the beginning of its text.
-/

namespace BoundSql

/-- An event says what the outcome of a build was. -/
def Event.Mirrors (event : Event) (kind : Kind) : Except BuildError Query → Prop
  | .error e => event.fields =
      [("level", "WARN"), ("target", target), ("message", "statement rejected"),
        ("statement", kind.keyword), ("error", e.message)]
  | .ok q => ∃ truncated shown, shown.toList <+: q.sql.toList ∧ event.fields =
      [("level", "DEBUG"), ("target", target), ("message", "statement built"),
        ("statement", kind.keyword), ("param_count", q.params.length.repr),
        ("truncated", truncated), ("sql", shown)]

/-- A build logs the one event that mirrors its outcome. -/
lemma Statement.log_mirrors (s : Statement) :
    ∃ event, s.build.log = [event] ∧ event.Mirrors s.kind s.toQuery := by
  unfold toQuery build
  cases s.checkedTable with
  | error e => exact ⟨_, rfl, rfl⟩
  | ok table =>
    obtain ⟨shown, longest, fields⟩ := Event.exists_fields_ofQuery s.kind (s.render table)
    exact ⟨_, rfl, _, shown, longest.beginning, fields⟩

end BoundSql
