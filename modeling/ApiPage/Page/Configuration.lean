import ApiPage.Error
import ApiPage.Page.Options

/-!
# Configurations

A program changes the settings and makes options for the pages that it will open, in any order. Each
change is checked when it is made. One that is refused says why; the program goes on after it.

## Main definitions

* `Configuration`: the settings, with the options that were made.
* `Change`: what a program does to a configuration.
* `Configuration.step`, `Configuration.run`: what one change does, and what many do.
-/

namespace ApiPage

/-- The names of the arguments that options are made of. -/
def Options.argumentNames : List Text :=
  [Text.of "package_url", Text.of "enable_hotlinking", Text.of "disable_permalinks",
    Text.of "enable_command_toc", stringSizeName, elementsName, Text.of "anchor_kinds",
    Text.of "wrap_receiver_methods"]

/-- **Change**: a setting is set by its name, all settings are reset, or options are made of
arguments by name. -/
inductive Change
  | set (name : Text) (value : Datum)
  | reset
  | make (arguments : List (Text × Datum))

/-- Why a change is refused. -/
inductive ChangeError
  | setting (e : SettingError)
  | argument (e : ValidationError)
  | unknownArgument (name : Text)

/-- The wording of an error. -/
def ChangeError.message : ChangeError → Text
  | setting (.invalid e) => e.message
  | setting (.unknown name) => (Failure.unknownSetting name).message
  | argument e => e.message
  | unknownArgument name =>
    Text.of "RenderOptions.__init__() got an unexpected keyword argument '" ++ name ++ ['\'']

/-- **Options made of arguments** while the settings are `s`. An argument by another name is refused
before the values are looked at. -/
def Options.make (s : Settings) (arguments : List (Text × Datum)) : Except ChangeError Options :=
  match arguments.find? fun (name, _) => !argumentNames.contains name with
  | some (name, _) => .error (.unknownArgument name)
  | none => (ofFields s arguments).mapError .argument

/-- **Configuration** of a program: the settings, and the options that were made, the oldest first.
-/
structure Configuration where
  settings : Settings
  made : List Options

namespace Configuration

/-- The configuration at the start of a program. -/
def initial : Configuration := ⟨Limits.initial, []⟩

/-- **One change**, and why it is refused if it is. -/
def step (c : Configuration) : Change → Configuration × Option ChangeError
  | .set name value =>
    match c.settings.set name value with
    | .ok settings => ({ c with settings }, none)
    | .error e => (c, some (.setting e))
  | .reset => ({ c with settings := Limits.initial }, none)
  | .make arguments =>
    match Options.make c.settings arguments with
    | .ok o => ({ c with made := c.made ++ [o] }, none)
    | .error e => (c, some e)

/-- **Changes one after another**, whether they are refused or not. -/
def run (c : Configuration) (as : List Change) : Configuration :=
  as.foldl (fun c a => (c.step a).1) c

end Configuration
end ApiPage
