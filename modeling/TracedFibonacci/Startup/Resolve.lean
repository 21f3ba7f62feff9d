import TracedFibonacci.Config.Environment
import TracedFibonacci.Config.File
import TracedFibonacci.Options.Options

/-!
# Settings for a start

A setting can come from four places. The command line wins over the environment, the environment
over the file of settings, and the file over the default. Nothing is judged before all of them
have spoken, so a bad value does no harm when something else overrides it; but a file that cannot
be read, or that is no document of settings, is never overridden.
-/

namespace TracedFibonacci

/-- What reading a file gives, by path. -/
abbrev Files := String → FileContent

/-- What the program runs with. -/
structure Plan where
  /-- The settings. -/
  settings : Settings
  /-- Where traces and metrics go. -/
  profile : Profile
  deriving Repr, DecidableEq

namespace Plan

/-- The settings of a file and of the environment; without a file, of the environment alone. -/
def discovered (files : Files) (env : Environment) (path? : Option String) :
    Except SettingsError Settings := do
  let s : Settings ←
    match path? with
    | some path => Settings.ofFile (files path)
    | none => .ok {}
  return s.withEnvironment env

/-- The plan that settings mean, if nothing is wrong with them. -/
def ofSettings (s : Settings) : Except SettingsError Plan := do
  let s ← s.validated
  match Profile.ofSettings s.telemetry with
  | .ok profile => return ⟨s, profile⟩
  | .error e => .error (.invalid [e])

/-- The plan for a start with some options. -/
def resolve (files : Files) (env : Environment) (o : Options) : Except SettingsError Plan := do
  ofSettings ((← discovered files env o.config?).withOptions o)

end Plan

end TracedFibonacci
