import ParamSchema.CommandLine.Layers

/-!
# Command line arguments

Options stand before, between and behind the files, up to an argument `--`.
Long options take their value after `=` or as the next argument, short ones
can be joined to one argument. No option can be given twice.
-/

set_option autoImplicit false

namespace ParamSchema.CommandLine

inductive Valued where
  | parameter
  | config
  | locale
  | maxDepth
  deriving DecidableEq

inductive Switch where
  | strict
  | exec
  | absent
  | printConfig
  | version
  | help
  deriving DecidableEq

inductive Opt where
  | valued (option : Valued)
  | switch (switch : Switch)
  deriving DecidableEq

def Opt.ofLong? : String → Option Opt
  | "parameter" => some (.valued .parameter)
  | "config" => some (.valued .config)
  | "locale" => some (.valued .locale)
  | "max-depth" => some (.valued .maxDepth)
  | "strict" => some (.switch .strict)
  | "exec" => some (.switch .exec)
  | "absent" => some (.switch .absent)
  | "print-config" => some (.switch .printConfig)
  | "version" => some (.switch .version)
  | "help" => some (.switch .help)
  | _ => none

def Opt.ofShort? : Char → Option Opt
  | 'p' => some (.valued .parameter)
  | 'c' => some (.valued .config)
  | 'l' => some (.valued .locale)
  | 'e' => some (.switch .exec)
  | 'V' => some (.switch .version)
  | 'h' => some (.switch .help)
  | _ => none

structure Arguments where
  parameter : Option String := none
  config : Option String := none
  locale : Option String := none
  maxDepth : Option Nat := none
  strict : Bool := false
  exec : Bool := false
  absent : Bool := false
  printConfig : Bool := false
  values : List String := []
  deriving DecidableEq

inductive Exit where
  | usage
  | version
  | help
  deriving DecidableEq

namespace Arguments

/-- Sets an option that is not set yet and whose value is right. A path is not empty. -/
def setValue (arguments : Arguments) (value : String) : Valued → Except Exit Arguments
  | .parameter =>
    if arguments.parameter.isSome || value.isEmpty then .error .usage
    else .ok { arguments with parameter := some value }
  | .config =>
    if arguments.config.isSome || value.isEmpty then .error .usage
    else .ok { arguments with config := some value }
  | .locale =>
    if arguments.locale.isSome then .error .usage else .ok { arguments with locale := some value }
  | .maxDepth =>
    match Settings.unsigned? value with
    | some depth =>
      if arguments.maxDepth.isSome then .error .usage
      else .ok { arguments with maxDepth := some depth }
    | none => .error .usage

def setSwitch (arguments : Arguments) : Switch → Except Exit Arguments
  | .strict => if arguments.strict then .error .usage else .ok { arguments with strict := true }
  | .exec => if arguments.exec then .error .usage else .ok { arguments with exec := true }
  | .absent => if arguments.absent then .error .usage else .ok { arguments with absent := true }
  | .printConfig =>
    if arguments.printConfig then .error .usage else .ok { arguments with printConfig := true }
  | .version => .error .version
  | .help => .error .help

def addFile (arguments : Arguments) (path : String) : Except Exit Arguments :=
  if path.isEmpty then .error .usage
  else .ok { arguments with values := arguments.values ++ [path] }

abbrev Progress := Except Exit (Arguments × Option Valued)

def long (arguments : Arguments) (text : List Char) : Progress :=
  let name := text.takeWhile (· != '=')
  let value := (text.drop name.length).tail?
  match Opt.ofLong? (String.ofList name), value with
  | some (.valued option), some value =>
    (arguments.setValue (String.ofList value) option).map (·, none)
  | some (.valued option), none => .ok (arguments, some option)
  | some (.switch switch), none => (arguments.setSwitch switch).map (·, none)
  | _, _ => .error .usage

def short (arguments : Arguments) : List Char → Progress
  | [] => .ok (arguments, none)
  | c :: rest =>
    match Opt.ofShort? c, rest with
    | some (.switch switch), rest => do short (← arguments.setSwitch switch) rest
    | some (.valued option), [] => .ok (arguments, some option)
    | some (.valued option), '=' :: value =>
      (arguments.setValue (String.ofList value) option).map (·, none)
    | some (.valued option), value =>
      (arguments.setValue (String.ofList value) option).map (·, none)
    | none, _ => .error .usage

def readFrom (arguments : Arguments) : Option Valued → List String → Except Exit Arguments
  | none, [] => .ok arguments
  | some _, [] => .error .usage
  | pending, text :: rest =>
    match pending, text.toList with
    | none, ['-', '-'] => rest.foldlM addFile arguments
    | none, '-' :: '-' :: name => do
      let (arguments, pending) ← arguments.long name
      readFrom arguments pending rest
    | none, '-' :: c :: name => do
      let (arguments, pending) ← arguments.short (c :: name)
      readFrom arguments pending rest
    | none, _ => do readFrom (← arguments.addFile text) none rest
    | some _, '-' :: _ :: _ => .error .usage
    | some option, _ => do readFrom (← arguments.setValue text option) none rest

/-- Reads all arguments. The settings file may come from a variable; a definition is always
needed; an absent value leaves no place for files. -/
def read (configVariable : Option String) (texts : List String) : Except Exit Arguments := do
  let arguments ← readFrom {} none texts
  let arguments ← match arguments.config, configVariable with
    | none, some path => arguments.setValue path .config
    | _, _ => .ok arguments
  if arguments.parameter.isNone || (arguments.absent && !arguments.values.isEmpty) then
    .error .usage
  else .ok arguments

def layer (arguments : Arguments) : Settings.Layer :=
  arguments.locale.elim [] (fun tag => [("locale", .string tag)]) ++
    arguments.maxDepth.elim [] (fun depth => [("max_depth", .integer depth)]) ++
    if arguments.strict then
      [("strict_combinators", .boolean true), ("strict_required", .boolean true)]
    else []

end Arguments

end ParamSchema.CommandLine
