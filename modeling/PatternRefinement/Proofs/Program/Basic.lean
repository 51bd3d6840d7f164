import PatternRefinement.Program

/-!
# Runs of the program

## Main Statements

* `Program.run_eq` — a run with settings carries out its job
* `Outcome.exitCode_ofTurn` — how a run ends that ends with a turn
* `outputText_append` — what is printed of messages one after the other
-/

namespace PatternRefinement

/-! ## Output -/

theorem outputText_append (first second : List StatusMessage) :
    outputText (first ++ second) = outputText first ++ outputText second := by
  simp [outputText, String.join_append]

theorem outputText_info (text : String) : outputText [.info text] = text ++ "\n" := by
  simp [outputText, StatusMessage.info, StatusMessage.isError, String.join_cons]

/-! ## Jobs -/

/-- A run with settings carries out its job. -/
theorem Program.run_eq {words : List String} {surroundings : Surroundings} {line : CommandLine}
    {settings : Settings} (read : CommandLine.read words = .ok line)
    (loaded : Program.settings line surroundings = .ok settings) :
    Program.run words surroundings = .ofPerformance (line.job.perform settings surroundings) := by
  rw [Program.run, read]
  dsimp only
  rw [loaded]

theorem Job.withService_eq {settings : Settings} {surroundings : Surroundings} {service : Service}
    (usable : Service.ofUrl settings.serverUrl = .ok service) (job : Service → Performance) :
    Job.withService settings surroundings job = job service := by
  unfold Job.withService
  split
  · rename_i other same
    obtain rfl := Except.ok.inj (usable.symm.trans same)
    rfl
  · rename_i refused
    cases usable.symm.trans refused

theorem Job.withService_error {settings : Settings} {surroundings : Surroundings}
    {failure : Failure} (unusable : Service.ofUrl settings.serverUrl = .error failure)
    (job : Service → Performance) :
    Job.withService settings surroundings job = .failed surroundings.files failure := by
  unfold Job.withService
  split
  · rename_i found
    cases unusable.symm.trans found
  · rename_i other same
    obtain rfl := Except.error.inj (unusable.symm.trans same)
    rfl

/-- A run that asks for the counter prints what is stored. -/
theorem Program.counter_output {words : List String} {surroundings : Surroundings}
    {line : CommandLine} {settings : Settings} (read : CommandLine.read words = .ok line)
    (job : line.job = .counter) (loaded : Program.settings line surroundings = .ok settings) :
    (Program.run words surroundings).output =
      nextRefinementText ((Job.counterStore settings).load surroundings.files) ++ "\n" := by
  rw [run_eq read loaded, job]
  exact outputText_info _

/-! ## Turns -/

section

variable {S : Type} (exchanges : List Exchange) (turn : Turn S) (closing : S → List StatusMessage)

/-- A run succeeds if its turn does. -/
theorem Outcome.exitCode_ofTurn :
    (Outcome.ofPerformance (.ofTurn exchanges turn closing)).exitCode =
      if turn.result.isOk then 0 else 1 := by
  cases result : turn.result <;> simp [ofPerformance, Performance.ofTurn, result, Except.isOk,
    Except.toBool]

theorem Performance.exchanges_ofTurn :
    (Performance.ofTurn exchanges turn closing).exchanges = exchanges := by
  unfold ofTurn
  split <;> rfl

theorem Outcome.exchanges_ofTurn :
    (Outcome.ofPerformance (.ofTurn exchanges turn closing)).exchanges = exchanges :=
  Performance.exchanges_ofTurn exchanges turn closing

theorem Outcome.files_ofTurn :
    (Outcome.ofPerformance (.ofTurn exchanges turn closing)).files = turn.files := by
  cases result : turn.result <;> simp [ofPerformance, Performance.ofTurn, result]

end

end PatternRefinement
