import PathSchema.Logging
import PathSchema.Store

/-!
# Configurations

A configuration names a schema and the inputs of its variables: environment variables
that variables take their values from, and variable sets with their members.  No two
inputs have the same name.
-/

namespace PathSchema

/-- Where a variable or a variable set gets its content from. -/
inductive Input where
  /-- A variable whose value is that of an environment variable. -/
  | environment (name source : String)
  /-- A variable set with its members. -/
  | variableSet (name : String) (content : List String)
  deriving DecidableEq

namespace Input

/-- The name of the variable or the variable set. -/
def name : Input → String
  | environment name _ => name
  | variableSet name _ => name

/-- The name of the first input that repeats the name of an earlier one, apart from
some names that were met before. -/
def repeatedFrom : List String → List Input → Option String
  | _, [] => none
  | met, input :: rest =>
    if met.contains input.name then some input.name
    else repeatedFrom (input.name :: met) rest

/-- The name of the first input that repeats the name of an earlier one. -/
def repeated? (inputs : List Input) : Option String :=
  repeatedFrom [] inputs

end Input

/-- What is kept of some inputs, latest first: where the values of variables come from,
and the members of variable sets. -/
structure ConfiguredStore where
  /-- The environment variables that variables take their values from. -/
  sources : List (String × String) := []
  sets : List (String × List String) := []
  deriving DecidableEq

namespace ConfiguredStore

/-- Keeps an input; it replaces an earlier one of its name and its type. -/
def insert (store : ConfiguredStore) : Input → ConfiguredStore
  | .environment name source => { store with sources := (name, source) :: store.sources }
  | .variableSet name content => { store with sets := (name, content) :: store.sets }

def ofInputs (inputs : List Input) : ConfiguredStore :=
  inputs.foldl insert {}

/-- The value of a variable in an environment, which is asked each time. -/
def value? (store : ConfiguredStore) (environment : String → Option String) (name : String) :
    Option String :=
  (store.sources.lookup name).bind environment

def set? (store : ConfiguredStore) (name : String) : Option (List String) :=
  store.sets.lookup name

/-- What the store answers as long as the environment stays as it is. -/
def answering (store : ConfiguredStore) (environment : String → Option String) : Store :=
  { Store.ofEntries [] store.sets with value? := store.value? environment }

end ConfiguredStore

/-- What a configuration file says. -/
structure Configuration where
  schema : Option String := none
  inputs : List Input := []
  logging : LogPreferences := {}
  deriving DecidableEq

namespace Configuration

/-- The store of a configuration as long as the environment stays as it is. -/
def store (configuration : Configuration) (environment : String → Option String) : Store :=
  (ConfiguredStore.ofInputs configuration.inputs).answering environment

end Configuration

end PathSchema
