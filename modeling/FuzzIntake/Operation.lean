import FuzzIntake.Json.Value

/-!
# Operations

An operation is one unit of work that a fuzzer reports: a new fuzzer, a program,
a run of a program, changed feedback, or a deleted program.  Programs are opaque
keys.
-/

namespace FuzzIntake

/-- The build flags of a run whose reporter sent none. -/
def defaultFlags : List String :=
  ["is_debug=false", "v8_enable_i18n_support=false", "dcheck_always_on=true",
    "v8_static_library=true", "v8_enable_verify_heap=true", "v8_fuzzilli=true",
    "sanitizer_coverage_flags=trace-pc-guard", "target_cpu=x64"]

/-- The known categories of runs. -/
inductive RunCategory
  | agenticAnalysis
  | deltaAnalysis
  | directedTestcases
  | generalisticTestcases
deriving DecidableEq, Repr

namespace RunCategory

/-- The number under which a category is stored. -/
def id : RunCategory → Int64
  | .agenticAnalysis => 1
  | .deltaAnalysis => 2
  | .directedTestcases => 3
  | .generalisticTestcases => 4

/-- The category number of a run that names none. -/
def standardId : Int64 :=
  1

/-- The name of a category. -/
def name : RunCategory → String
  | .agenticAnalysis => "agentic_analysis"
  | .deltaAnalysis => "delta_analysis"
  | .directedTestcases => "directed_testcases"
  | .generalisticTestcases => "generalistic_testcases"

/-- All categories in the order of their numbers. -/
def all : List RunCategory :=
  [.agenticAnalysis, .deltaAnalysis, .directedTestcases, .generalisticTestcases]

/-- The category of exactly this name. -/
def ofName? (text : String) : Option RunCategory :=
  all.find? fun category => category.name = text

end RunCategory

/-- One run of a program. -/
structure Execution where
  /-- The program that ran. -/
  program : String
  /-- The fuzzer that reported the run. -/
  fuzzerId : Int64
  /-- The category of the run. -/
  categoryId : Int64
  /-- The feedback of the run, if any. -/
  feedback : Option Json.Value
  /-- The intermediate code of the program. -/
  intermediateCode : String
  /-- The coverage the run reached. -/
  coverage : Double
  /-- The build flags of the run. -/
  flags : List String
deriving BEq, Repr

/-- One unit of reported work. -/
inductive Operation
  | createFuzzer
  | fuzzerProgram (program : String) (fuzzerId : Int64)
  | testProgram (program : String) (fuzzerId : Int64)
  | execution (execution : Execution)
  | updateFeedback (program : String) (feedback : Option Json.Value)
  | delete (program : String)
deriving BEq, Repr

/-- The kinds of operations. -/
inductive OperationKind
  | createFuzzer
  | fuzzerProgram
  | testProgram
  | execution
  | updateFeedback
  | delete
deriving DecidableEq, Repr

namespace OperationKind

/-- The name of a kind in stream entries. -/
def entryName : OperationKind → String
  | .createFuzzer => "create_fuzzer"
  | .fuzzerProgram => "fuzzer_program"
  | .testProgram => "test_program"
  | .execution => "execution"
  | .updateFeedback => "update_feedback"
  | .delete => "del"

/-- The name of a kind in JSON documents, which spell deletion out. -/
def documentName : OperationKind → String
  | .delete => "delete"
  | kind => kind.entryName

/-- All kinds. -/
def all : List OperationKind :=
  [.createFuzzer, .fuzzerProgram, .testProgram, .execution, .updateFeedback, .delete]

/-- The kind of a name in stream entries. -/
def ofEntryName? (text : String) : Option OperationKind :=
  all.find? fun kind => kind.entryName = text

/-- The kind of a name in JSON documents. -/
def ofDocumentName? (text : String) : Option OperationKind :=
  all.find? fun kind => kind.documentName = text

end OperationKind

namespace Operation

/-- The kind of an operation. -/
def kind : Operation → OperationKind
  | .createFuzzer => .createFuzzer
  | .fuzzerProgram _ _ => .fuzzerProgram
  | .testProgram _ _ => .testProgram
  | .execution _ => .execution
  | .updateFeedback _ _ => .updateFeedback
  | .delete _ => .delete

/-- The program an operation is about; creating a fuzzer is about none. -/
def program? : Operation → Option String
  | .createFuzzer => none
  | .fuzzerProgram program _ => some program
  | .testProgram program _ => some program
  | .execution run => some run.program
  | .updateFeedback program _ => some program
  | .delete program => some program

/-- The key that decides which worker an operation goes to. -/
def laneKey (operation : Operation) : String :=
  operation.program?.getD ""

end Operation
end FuzzIntake
