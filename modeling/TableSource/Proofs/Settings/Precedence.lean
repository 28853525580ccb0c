import TableSource.CommandLine.Program
import TableSource.Proofs.Settings.Assignments

/-!
# Precedence of settings

A variable has the value that the process gives it.  Where the process gives it none, it has the
value of the file of the mode, and where this gives it none either, that of the file of every mode.

Loading files changes the environment that the next loading starts from.  A loading adds all that
its two files set, though, and adding never changes what is set.  So another loading in the same
mode finds nothing to add, and any number of configurations that are read in this mode are read
from one environment.  A mode that is asked for is not overruled by a mode that a file sets, so no
file of another mode is ever looked at.
-/

namespace TableSource

/-! ## Files -/

/-- The text of a file. -/
def EnvironmentFiles.text? (files : EnvironmentFiles) (file : String) : Option String :=
  (files.find? fun entry => entry.1 == file).map (·.2)

/-- The lines of a file; a file that is not there has none. -/
def EnvironmentFiles.lines (files : EnvironmentFiles) (file : String) : List String :=
  match files.text? file with
  | some text => Text.split '\n' text
  | none => []

namespace Environment

variable {environment : Environment} {files : EnvironmentFiles} {file : String}

/-! ## Adding variables -/

theorem get?_cons (entry : String × String) (entries : Environment) (name : String) :
    get? (entry :: entries) name =
      if entry.1 = name then some entry.2 else get? entries name := by
  rw [get?, List.find?_cons]
  split <;> simp_all [get?]

theorem get?_add (environment : Environment) (entry : String × String) (name : String) :
    (environment.add entry).get? name = (environment.get? name).or (get? [entry] name) := by
  rw [add]
  split
  · next set =>
      by_cases same : entry.1 = name
      · rw [← same, Option.or_of_isSome set]
      · rw [get?_cons, if_neg same]
        exact Option.or_none.symm
  · rw [get?, List.find?_append, Option.map_or]
    rfl

theorem get?_foldl_add (entries environment : Environment) (name : String) :
    (entries.foldl add environment).get? name =
      (environment.get? name).or (get? entries name) := by
  induction entries generalizing environment with
  | nil =>
      exact Option.or_none.symm
  | cons entry rest induction =>
      have parted : get? (entry :: rest) name = (get? [entry] name).or (get? rest name) := by
        rw [get?_cons, get?_cons]
        split <;> rfl
      rw [List.foldl_cons, induction, get?_add, Option.or_assoc, parted]

/-- Variables that are set are not added. -/
theorem foldl_add_of_set
    {entries : Environment}
    (set : ∀ entry ∈ entries, (environment.get? entry.1).isSome = true) :
    entries.foldl add environment = environment := by
  induction entries with
  | nil =>
      rfl
  | cons entry rest induction =>
      rw [List.forall_mem_cons] at set
      rw [List.foldl_cons, add, if_pos set.1, induction set.2]

theorem isSome_get?_of_mem
    {entries : Environment} {entry : String × String}
    (member : entry ∈ entries) :
    (get? entries entry.1).isSome = true := by
  rw [get?, Option.isSome_map, List.find?_isSome]
  exact ⟨entry, member, beq_self_eq_true _⟩

theorem addFile_eq (environment : Environment) (files : EnvironmentFiles) (file : String) :
    environment.addFile files file = (assignments (files.lines file)).foldl add environment := by
  rw [addFile, EnvironmentFiles.lines, EnvironmentFiles.text?]
  cases files.find? fun entry => entry.1 == file <;> rfl

theorem get?_addFile (environment : Environment) (files : EnvironmentFiles) (file name : String) :
    (environment.addFile files file).get? name =
      (environment.get? name).or (get? (assignments (files.lines file)) name) := by
  rw [addFile_eq, get?_foldl_add]

/-! ## Files that add nothing -/

/-- An environment covers a file when every variable that the file sets is set. -/
def Covers (environment : Environment) (files : EnvironmentFiles) (file : String) : Prop :=
  ∀ entry ∈ assignments (files.lines file), (environment.get? entry.1).isSome = true

theorem covers_addFile (environment : Environment) (files : EnvironmentFiles) (file : String) :
    (environment.addFile files file).Covers files file := by
  intro entry member
  rw [get?_addFile, Option.isSome_or, isSome_get?_of_mem member, Bool.or_true]

theorem Covers.addFile
    (covers : environment.Covers files file) (other : String) :
    (environment.addFile files other).Covers files file := by
  intro entry member
  rw [get?_addFile, Option.isSome_or, covers entry member, Bool.true_or]

theorem addFile_of_covers
    (covers : environment.Covers files file) :
    environment.addFile files file = environment := by
  rw [addFile_eq, foldl_add_of_set covers]

/-! ## Loading in a mode -/

section Mode

variable {mode : String}

theorem load_explicit
    (explicit : mode ≠ "") (environment : Environment) (files : EnvironmentFiles) :
    environment.load files (some mode) =
      (mode, (environment.addFile files (".env." ++ mode)).addFile files ".env") := by
  simp [load, Environment.mode, explicit]

/-- What was loaded stays as it is when it is loaded again. -/
theorem load_again
    (explicit : mode ≠ "") (environment : Environment) (files : EnvironmentFiles) :
    (environment.load files (some mode)).2.load files (some mode) =
      (mode, (environment.load files (some mode)).2) := by
  rw [load_explicit explicit, load_explicit explicit]
  have first : ((environment.addFile files (".env." ++ mode)).addFile files ".env").Covers files
      (".env." ++ mode) :=
    (covers_addFile environment files (".env." ++ mode)).addFile ".env"
  rw [addFile_of_covers first, addFile_of_covers (covers_addFile _ files ".env")]

theorem load_eq
    (explicit : mode ≠ "") (environment : Environment) (files : EnvironmentFiles) :
    environment.load files (some mode) = (mode, (environment.load files (some mode)).2) := by
  rw [load_explicit explicit]

/-- Only two files are loaded. -/
theorem load_congr
    {others : EnvironmentFiles}
    (explicit : mode ≠ "")
    (same : ∀ file ∈ [".env." ++ mode, ".env"], others.text? file = files.text? file)
    (environment : Environment) :
    environment.load others (some mode) = environment.load files (some mode) := by
  rw [List.forall_mem_cons, List.forall_mem_singleton] at same
  simp only [load_explicit explicit, addFile_eq, EnvironmentFiles.lines, same]

end Mode

/-! ## The value that prevails -/

/-- The value of a variable in a mode: that of the process, else that of the file of the mode, else
what the file of every mode gives. -/
inductive Prevails (environment : Environment) (files : EnvironmentFiles) (mode name : String) :
    Option String → Prop where
  | ofProcess {value : String}
      (set : environment.get? name = some value) :
      Prevails environment files mode name (some value)
  | ofMode {value : String}
      (unset : environment.get? name = none)
      (given : Gives (files.lines (".env." ++ mode)) name (some value)) :
      Prevails environment files mode name (some value)
  | ofEveryMode {value : Option String}
      (unset : environment.get? name = none)
      (passed : Gives (files.lines (".env." ++ mode)) name none)
      (given : Gives (files.lines ".env") name value) :
      Prevails environment files mode name value

theorem prevails_load
    {mode : String}
    (explicit : mode ≠ "") (environment : Environment) (files : EnvironmentFiles)
    (name : String) :
    Prevails environment files mode name
      ((environment.load files (some mode)).2.get? name) := by
  have ofMode := gives_assignments (files.lines (".env." ++ mode)) name
  have ofEveryMode := gives_assignments (files.lines ".env") name
  rw [load_explicit explicit, get?_addFile, get?_addFile]
  cases set : environment.get? name with
  | some value =>
      exact .ofProcess set
  | none =>
      rw [Option.none_or]
      cases given : get? (assignments (files.lines (".env." ++ mode))) name with
      | some value =>
          exact .ofMode set (given ▸ ofMode)
      | none =>
          exact .ofEveryMode set (given ▸ ofMode) ofEveryMode

end Environment

/-! ## One loading after the other -/

/-- What can be asked for: only that files are loaded, or a configuration as well. -/
inductive Demand where
  | loading
  | database
  | source
  | server
  deriving DecidableEq, Repr

/-- What is given for a demand; the mode is given for a loading. -/
inductive Answer where
  | mode (mode : String)
  | database (settings : DatabaseSettings)
  | source (settings : SourceSettings)
  | server (settings : ServerSettings)
  deriving DecidableEq, Repr

/-- The answer in a mode, from an environment that is loaded. -/
def Demand.answer (mode : String) (environment : Environment) : Demand → Answer
  | .loading => .mode mode
  | .database => .database (.ofEnvironment environment)
  | .source => .source (.ofEnvironment environment)
  | .server => .server (.ofEnvironment environment)

namespace Environment

/-- The answers to demands one after the other, with the environment at the end.  The files are
loaded before each answer, and what they add stays. -/
def answers (files : EnvironmentFiles) (asked : Option String) :
    Environment → List Demand → List Answer × Environment
  | environment, [] => ([], environment)
  | environment, demand :: rest =>
    let (mode, loaded) := environment.load files asked
    let (found, last) := answers files asked loaded rest
    (demand.answer mode loaded :: found, last)

section Mode

variable {mode : String}

theorem answers_of_loaded
    {environment : Environment} {files : EnvironmentFiles}
    (again : environment.load files (some mode) = (mode, environment))
    (demands : List Demand) :
    environment.answers files (some mode) demands =
      (demands.map fun demand => demand.answer mode environment, environment) := by
  induction demands with
  | nil =>
      rfl
  | cons demand rest induction =>
      rw [answers, again]
      dsimp only
      rw [induction]
      rfl

theorem answers_of_filled
    {demands : List Demand}
    (explicit : mode ≠ "") (environment : Environment) (files : EnvironmentFiles)
    (filled : demands ≠ []) :
    let loaded := (environment.load files (some mode)).2
    environment.answers files (some mode) demands =
      (demands.map fun demand => demand.answer mode loaded, loaded) := by
  cases demands with
  | nil =>
      exact absurd rfl filled
  | cons demand rest =>
      rw [answers, load_eq explicit]
      dsimp only
      rw [answers_of_loaded (load_again explicit environment files)]
      rfl

theorem configuration_load
    (explicit : mode ≠ "") (environment : Environment) (files : EnvironmentFiles) :
    let loaded := (environment.load files (some mode)).2
    Configuration.load environment files (some mode) =
      { database := .ofEnvironment loaded
        source := .ofEnvironment loaded
        server := .ofEnvironment loaded
        mode } := by
  rw [Configuration.load, load_eq explicit]
  simp only [load_again explicit]

/-- The program runs as it would in the loaded environment without any files. -/
theorem runServer_load
    {options : CommandLine.Options}
    (explicit : mode ≠ "") (environment : Environment) (files : EnvironmentFiles)
    (asked : options.environment = some mode) :
    CommandLine.runServer options environment files =
      CommandLine.runServer options (environment.load files (some mode)).2 [] := by
  have bare (loaded : Environment) : loaded.load [] (some mode) = (mode, loaded) := by
    rw [load_explicit explicit]
    rfl
  rw [CommandLine.runServer, CommandLine.runServer, asked, load_eq explicit]
  simp only [load_again explicit, bare]

/-- In a mode that is asked for, every variable has the value that prevails, from the first loading
on.  However many configurations are read, and in whatever order, each is read from that one
environment.  So are all settings when they are loaded together, and those that the program runs
with.  None of this depends on the files of other modes. -/
theorem load_keeps_precedence
    (environment : Environment) (files : EnvironmentFiles)
    (explicit : mode ≠ "") :
    let loaded := (environment.load files (some mode)).2
    (∀ name, Prevails environment files mode name (loaded.get? name)) ∧
    ∀ others : EnvironmentFiles,
      (∀ file ∈ [".env." ++ mode, ".env"], others.text? file = files.text? file) →
      (∀ demands, demands ≠ [] →
        environment.answers others (some mode) demands =
          (demands.map fun demand => demand.answer mode loaded, loaded)) ∧
      Configuration.load environment others (some mode) =
        { database := .ofEnvironment loaded
          source := .ofEnvironment loaded
          server := .ofEnvironment loaded
          mode } ∧
      ∀ options : CommandLine.Options, options.environment = some mode →
        CommandLine.runServer options environment others =
          CommandLine.runServer options loaded [] := by
  intro loaded
  refine ⟨prevails_load explicit environment files, fun others same => ?_⟩
  have loadedToo : (environment.load others (some mode)).2 = loaded := by
    rw [load_congr explicit same]
  rw [← loadedToo]
  exact ⟨fun demands => answers_of_filled explicit environment others,
    configuration_load explicit environment others,
    fun options => runServer_load explicit environment others⟩

end Mode

/-! ## Variables that are set in several places -/

/-- A process that sets one variable and empties another one. -/
def startedProcess : Environment :=
  [("DB_HOST", "db.internal"), ("DB_USER", "")]

/-- Files that set the variables of the process and each other's, and the mode. -/
def stackedFiles : EnvironmentFiles :=
  [(".env", "DB_NAME=base\nDB_TABLE=things\nAPP_ENV=development\n"),
    (".env.test", "DB_HOST=elsewhere\nDB_USER=tester\n" ++
      "DB_NAME=first\nAPP_ENV=production\nDB_NAME=second\n"),
    (".env.production", "DB_NAME=live\nDB_TABLE=orders\nHTTP_PORT=443\n")]

theorem load_keeps_precedence_over_stackedFiles :
    "test" ≠ "" ∧
    (∀ file ∈ [".env." ++ "test", ".env"],
      EnvironmentFiles.text? (stackedFiles.take 2) file = stackedFiles.text? file) ∧
    ∃ loaded : Environment,
      ["DB_HOST", "DB_USER", "DB_NAME", "DB_TABLE", "HTTP_PORT", "APP_ENV"].map loaded.get? =
        [some "db.internal", some "", some "second", some "things", none, some "production"] ∧
      (∀ name, Prevails startedProcess stackedFiles "test" name (loaded.get? name)) ∧
      startedProcess.answers (stackedFiles.take 2) (some "test")
          [.server, .loading, .database, .source, .database] =
        ([.server (.ofEnvironment loaded), .mode "test", .database (.ofEnvironment loaded),
          .source (.ofEnvironment loaded), .database (.ofEnvironment loaded)], loaded) ∧
      CommandLine.runServer { environment := some "test" } startedProcess (stackedFiles.take 2) =
        CommandLine.runServer { environment := some "test" } loaded [] := by
  have explicit : "test" ≠ "" := by
    decide
  have same : ∀ file ∈ [".env." ++ "test", ".env"],
      EnvironmentFiles.text? (stackedFiles.take 2) file = stackedFiles.text? file := by
    decide +kernel
  rcases load_keeps_precedence startedProcess stackedFiles explicit with ⟨prevails, alike⟩
  rcases alike _ same with ⟨answered, -, run⟩
  refine ⟨explicit, same, _, ?values, prevails, answered _ (List.cons_ne_nil _ _), run _ rfl⟩
  case values =>
    decide +kernel

end Environment

end TableSource
