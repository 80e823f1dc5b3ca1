import RecordRules.Proofs.Evaluation.Faults

/-!
The log of an evaluation as its transcript.

The log tells the failed rules up to the first one that breaks, if the settings ask for them, and
then how the evaluation ended (`evaluateBy_log`). With a result it ends in one summary that counts
the rules and the errors of the result. With a fault of the record or of a predicate it ends in one
error about the rule that broke, and with a refused path it just ends.
-/

namespace RecordRules

namespace LogEntry

def level (entry : LogEntry) : String := entry.text.1

/-- The message of an entry has a path in quotes. -/
def Names (entry : LogEntry) (path : Label) : Prop :=
  ∃ before after, entry.text.2 = before ++ "'" ++ path.shown ++ "'" ++ after

theorem names_unresolved (path : Label) (ruleName : String) (f : Fault) :
    (LogEntry.unresolved path ruleName f).Names path := by
  refine ⟨"Resolving attribute ",
    " for rule '" ++ ruleName ++ "' raised " ++ f.className ++ ": " ++ f.message, ?_⟩
  have opening : "Resolving attribute '" = "Resolving attribute " ++ "'" := rfl
  have closing : "' for rule '" = "'" ++ " for rule '" := rfl
  simp only [text, opening, closing, String.append_assoc]

theorem names_broken (path : Label) (ruleName origin : Value) :
    (LogEntry.broken (.text path) ruleName origin).Names path := by
  refine ⟨"Predicate '" ++ ruleName.shown ++ "' failed on attribute ", ": " ++ origin.shown, ?_⟩
  have shown : (Value.text path).shown = path.shown := rfl
  have opening : "' failed on attribute '" = "' failed on attribute " ++ "'" := rfl
  have closing : "': " = "'" ++ ": " := rfl
  simp only [text, shown, opening, closing, String.append_assoc]

end LogEntry

namespace Config

/-! ### Rules that do not break -/

/-- What is logged about the failed rules among some: one entry for each in their order, if the
settings ask for it. -/
def failureLog (outcomes : Outcomes) (c : Config) (record : Value) (rs : List Rule) :
    List LogEntry :=
  if c.logFailures then (c.failures outcomes record rs).map .failed else []

section

variable {outcomes : Outcomes} {c : Config} {record : Value}

theorem level_of_failureLog {rs : List Rule} {entry : LogEntry}
    (mem : entry ∈ c.failureLog outcomes record rs) : entry.level = "DEBUG" := by
  unfold failureLog at mem
  split at mem
  · obtain ⟨e, _, rfl⟩ := List.mem_map.mp mem
    rfl
  · simp at mem

/-- A rule that does not break logs its failure, if it failed and the settings ask for it. -/
theorem logOf_history_unbroken {r : Rule}
    (unbroken : (c.verdict outcomes record r).fault? = none) :
    Run.logOf (c.history outcomes record r) = c.failureLog outcomes record [r] := by
  rw [logOf_history]
  cases path : c.checkPath r.path with
  | error f => simp [verdict, path, Verdict.fault?] at unbroken
  | ok u =>
      cases value : c.resolve record r.path with
      | error f => simp [verdict, path, value, Verdict.fault?] at unbroken
      | ok v =>
          cases verdict : c.verdict outcomes record r with
          | broken f => simp [verdict, Verdict.fault?] at unbroken
          | satisfied => simp [failureLog, failures, verdict, Verdict.error?]
          | failed e => simp [failureLog, failures, verdict, Verdict.error?]

theorem failureLog_cons (r : Rule) (rs : List Rule) :
    c.failureLog outcomes record (r :: rs) =
      c.failureLog outcomes record [r] ++ c.failureLog outcomes record rs := by
  unfold failureLog failures
  by_cases logs : c.logFailures = true
  · rw [if_pos logs, if_pos logs, if_pos logs, ← List.map_append, ← List.filterMap_append,
      List.singleton_append]
  · simp [logs]

/-- Rules that do not break log the failed ones among them. -/
theorem logOf_unbroken {rs : List Rule}
    (unbroken : ∀ r ∈ rs, (c.verdict outcomes record r).fault? = none) :
    Run.logOf (rs.flatMap (c.history outcomes record)) = c.failureLog outcomes record rs := by
  induction rs with
  | nil => simp [failureLog, failures, Run.logOf]
  | cons r rs ih =>
      obtain ⟨here, later⟩ := List.forall_mem_cons.mp unbroken
      rw [List.flatMap_cons, Run.logOf_append, logOf_history_unbroken here, ih later,
        ← failureLog_cons]

/-! ### A rule that breaks -/

/-- The entries that report a rule at which the record or a predicate faults. -/
inductive Reports (outcomes : Outcomes) (c : Config) (record : Value) (r : Rule) :
    LogEntry → Prop where
  | record {origin : Fault} (faults : c.resolve record r.path = .error origin) :
      Reports outcomes c record r (.unresolved r.path r.expr.name origin)
  | predicate {v : Value} {leaf : Leaf} {origin : Fault} (found : c.resolve record r.path = .ok v)
      (asked : leaf ∈ (r.expr.read outcomes v).asked)
      (faults : outcomes leaf.1 v leaf.2 = .error origin) :
      Reports outcomes c record r (.broken (.text r.path) (.ofString leaf.1.key) (.fault origin))

/-- A report is an error that names the path of the rule. -/
theorem Reports.level_and_path {r : Rule} {entry : LogEntry}
    (reports : c.Reports outcomes record r entry) :
    entry.level = "ERROR" ∧ entry.Names r.path := by
  cases reports with
  | record faults => exact ⟨rfl, LogEntry.names_unresolved _ _ _⟩
  | predicate found asked faults => exact ⟨rfl, LogEntry.names_broken _ _ _⟩

/-- A rule that breaks logs one report, unless its path is refused. -/
theorem logOf_history_broken {r : Rule} {f : Fault}
    (broken : (c.verdict outcomes record r).fault? = some f)
    (quiet : ∀ p v params origin, (p, v, params) ∈ Run.callsOf (c.history outcomes record r) →
      outcomes p v params = .error origin → origin.isEngine = false) :
    (c.checkPath r.path ≠ .ok () ∧ Run.logOf (c.history outcomes record r) = []) ∨
      (c.checkPath r.path = .ok () ∧ ∃ entry, c.Reports outcomes record r entry ∧
        Run.logOf (c.history outcomes record r) = [entry]) := by
  rcases (fault?_verdict outcomes c record r f).mp broken with ⟨refused, -⟩ |
    ⟨path, origin, faults, -⟩ | ⟨path, v, found, leaf, asked, origin, faults, -⟩
  · left
    refine ⟨refused, ?_⟩
    rw [logOf_history]
    cases path : c.checkPath r.path with
    | error g => rfl
    | ok u => exact absurd path refused
  · right
    refine ⟨path, _, .record faults, ?_⟩
    rw [logOf_history]
    simp only [path, faults]
  · right
    refine ⟨path, _, .predicate found asked faults, ?_⟩
    have called : (leaf.1, v, leaf.2) ∈ Run.callsOf (c.history outcomes record r) :=
      (mem_callsOf_history outcomes c record r).mpr ⟨path, found, asked⟩
    have plain := quiet leaf.1 v leaf.2 origin called faults
    have blamed : Expr.blameFault r.path leaf.1 origin =
        .evaluation (.text r.path) (.ofString leaf.1.key) (.fault origin) := by
      simp [Expr.blameFault, plain]
    rw [logOf_called called faults, blamed]
    rfl

end

/-- **The log is the history of an evaluation.** Suppose that no predicate that is called ends in a
fault of the engine. If no rule breaks, the log tells the failed rules in their order, if the
settings ask for it, and then one summary with the number of rules and the number of errors of the
result. Otherwise it tells the failed rules before the first that breaks; nothing more if the path
of that rule is refused, and else one error, which names the path and reports the fault of the
record or of the predicate. Failures and summaries are no errors. -/
theorem evaluateBy_log {outcomes : Outcomes} {c : Config} {rs : RuleSet} {record : Value}
    (quiet : ∀ p v params origin,
      (p, v, params) ∈ Run.callsOf (c.evaluateBy outcomes rs record).events →
      outcomes p v params = .error origin → origin.isEngine = false) :
    ((∀ r ∈ rs.rules, (c.verdict outcomes record r).fault? = none) →
      ∃ result : Result, (c.evaluateBy outcomes rs record).answer = .ok result ∧
        Run.logOf (c.evaluateBy outcomes rs record).events =
          c.failureLog outcomes record rs.rules ++
            [.summary rs.rules.length result.errors.length]) ∧
    (∀ before r after f, rs.rules = before ++ r :: after →
      (∀ q ∈ before, (c.verdict outcomes record q).fault? = none) →
      (c.verdict outcomes record r).fault? = some f →
      (c.evaluateBy outcomes rs record).answer = .error f ∧
      ((c.checkPath r.path ≠ .ok () ∧
        Run.logOf (c.evaluateBy outcomes rs record).events =
          c.failureLog outcomes record before) ∨
      (c.checkPath r.path = .ok () ∧ ∃ entry, c.Reports outcomes record r entry ∧
        entry.level = "ERROR" ∧ entry.Names r.path ∧
        Run.logOf (c.evaluateBy outcomes rs record).events =
          c.failureLog outcomes record before ++ [entry]))) ∧
    (∀ qs, ∀ entry ∈ c.failureLog outcomes record qs, entry.level = "DEBUG") ∧
    ∀ rules failures, (LogEntry.summary rules failures).level = "DEBUG" := by
  refine ⟨fun unbroken => ?_, ?_, fun _ _ => level_of_failureLog, fun _ _ => rfl⟩
  · rw [evaluateBy_unbroken outcomes c record unbroken]
    refine ⟨_, rfl, ?_⟩
    rw [Run.logOf_append, logOf_unbroken unbroken, ErrorSet.length_ofList]
    rfl
  · intro before r after f split unbroken broken
    have run := evaluateBy_broken outcomes c record split unbroken broken
    rw [run] at quiet ⊢
    have log : Run.logOf ((before ++ [r]).flatMap (c.history outcomes record)) =
        c.failureLog outcomes record before ++ Run.logOf (c.history outcomes record r) := by
      rw [List.flatMap_append, Run.logOf_append, logOf_unbroken unbroken, List.flatMap_singleton]
    have quietHere : ∀ p v params origin,
        (p, v, params) ∈ Run.callsOf (c.history outcomes record r) →
        outcomes p v params = .error origin → origin.isEngine = false := by
      intro p v params origin called
      apply quiet p v params origin
      rw [Run.callsOf_flatMap]
      exact List.mem_flatMap.mpr ⟨r, List.mem_append_right _ List.mem_cons_self, called⟩
    refine ⟨rfl, ?_⟩
    rcases logOf_history_broken broken quietHere with ⟨refused, silent⟩ |
      ⟨path, entry, reports, told⟩
    · left
      exact ⟨refused, by rw [log, silent, List.append_nil]⟩
    · right
      obtain ⟨level, names⟩ := reports.level_and_path
      exact ⟨path, entry, reports, level, names, by rw [log, told]⟩

/-! ### A contact -/

/-- A name, an age and a mail address have to be filled in, and the age is divided by zero. -/
def contactRules : RuleSet :=
  let filled : Expr := .bound (Builtin.filled.predicate 0) []
  ⟨[⟨.plain "name", filled⟩, ⟨.plain "age", filled⟩, ⟨.plain "mail", filled⟩,
    ⟨.plain "age", .bound ratio []⟩, ⟨.plain "name", filled⟩]⟩

/-- A contact with an empty name and without a mail address. -/
def contact : Value := .object [("name", .ofString ""), ("age", .int 3)]

/-- An evaluator that logs failures. -/
def logging : Config := ⟨true, ".", true⟩

/-- The name and the mail address are logged as failed, then the division is logged as an error, and
neither the last rule nor a summary follows. -/
theorem evaluate_contactRules :
    (∀ p v params origin,
      (p, v, params) ∈ Run.callsOf (logging.evaluate contactRules contact).events →
      p.test v params = .error origin → origin.isEngine = false) ∧
    Run.logOf (logging.evaluate contactRules contact).events =
      [.failed ⟨.plain "name", .plain "filled?", .none, .ofString ""⟩,
        .failed ⟨.plain "mail", .plain "filled?", .none, .none⟩,
        .broken (.text (.plain "age")) (.ofString "ratio?")
          (.fault (.ofMessage .zeroDivision "division by zero"))] := by
  have calls : Run.callsOf (logging.evaluate contactRules contact).events =
      [(Builtin.filled.predicate 0, .ofString "", []), (Builtin.filled.predicate 0, .int 3, []),
        (Builtin.filled.predicate 0, .absent, []), (ratio, .int 3, [])] := rfl
  have quiet : ∀ p v params origin,
      (p, v, params) ∈ Run.callsOf (logging.evaluate contactRules contact).events →
      p.test v params = .error origin → origin.isEngine = false := by
    intro p v params origin called faults
    rw [calls] at called
    simp only [List.mem_cons, List.not_mem_nil, or_false, Prod.mk.injEq] at called
    rcases called with ⟨rfl, rfl, rfl⟩ | ⟨rfl, rfl, rfl⟩ | ⟨rfl, rfl, rfl⟩ | ⟨rfl, rfl, rfl⟩
    · cases faults
    · cases faults
    · cases faults
    · cases faults
      rfl
  refine ⟨quiet, ?_⟩
  obtain ⟨-, ends, -⟩ := evaluateBy_log quiet
  have split : contactRules.rules =
      contactRules.rules.take 3 ++ ⟨.plain "age", .bound ratio []⟩ :: contactRules.rules.drop 4 := rfl
  have unbroken : ∀ q ∈ contactRules.rules.take 3,
      (logging.verdict Predicate.test contact q).fault? = none := by
    intro q mem
    rcases List.mem_cons.mp mem with rfl | mem
    · rfl
    rcases List.mem_cons.mp mem with rfl | mem
    · rfl
    rcases List.mem_singleton.mp mem with rfl
    rfl
  obtain ⟨-, refused | ⟨-, entry, reports, -, -, log⟩⟩ := ends _ _ _ _ split unbroken rfl
  · exact absurd rfl refused.1
  · have failed : logging.failureLog Predicate.test contact (contactRules.rules.take 3) =
        [.failed ⟨.plain "name", .plain "filled?", .none, .ofString ""⟩,
          .failed ⟨.plain "mail", .plain "filled?", .none, .none⟩] := rfl
    refine log.trans ?_
    rw [failed]
    cases reports with
    | record faults => cases faults
    | predicate found asked faults =>
        cases found
        obtain rfl := List.mem_singleton.mp asked
        cases faults
        rfl

end Config

end RecordRules
