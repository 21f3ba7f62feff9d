import TracedFibonacci.Config.Error
import TracedFibonacci.Config.Shape
import TracedFibonacci.Text.Utf8
import TracedFibonacci.Toml.Document
import TracedFibonacci.Toml.Excerpt

/-!
# Settings from a file

A file of settings is a TOML document in UTF-8. Reading it does not judge the settings; loading it
also validates them.
-/

namespace TracedFibonacci

/-- What reading a file gives: its bytes, or a fault. -/
abbrev FileContent := Except Fault (List UInt8)

namespace FileContent

/-- What reading a file that does not exist gives. -/
def missing : FileContent :=
  .error ⟨.notFound, some "No such file or directory (os error 2)"⟩

/-- What reading a directory gives. -/
def directory : FileContent := .error ⟨.isADirectory, some "Is a directory (os error 21)"⟩

end FileContent

namespace Settings

/-- The settings in a document. -/
def ofDocument (text : String) : Except SettingsError Settings :=
  match Toml.document? text.toList with
  | none => .error .notToml
  | some document =>
    match Shape.settings.entries {} document with
    | .ok s => .ok s
    | .error e =>
      .error (.wrongShape
        (match e.span? with
        | some span => Toml.pointAt text.toList span e.message
        | none => e.message ++ "\n"))

/-- The settings in a file. -/
def ofFile (file : FileContent) : Except SettingsError Settings :=
  match file with
  | .error fault => .error (.unreadable fault)
  | .ok bytes =>
    match Text.Utf8.decode bytes with
    | .error _ =>
      .error (.unreadable ⟨.invalidData, some "stream did not contain valid UTF-8"⟩)
    | .ok text => ofDocument text

/-- Settings, if nothing is wrong with them. -/
def validated (s : Settings) : Except SettingsError Settings :=
  match s.problems with
  | [] => .ok s
  | problems => .error (.invalid problems)

/-- The settings in a file, if nothing is wrong with them. -/
def load (file : FileContent) : Except SettingsError Settings := (ofFile file).bind validated

end Settings

end TracedFibonacci
