import MediaQuery.Settings.Basic

/-!
# The settings of a process

Settings are loaded once and then kept. They are loaded anew only on demand, and loading that fails
leaves what is kept as it is.

* `SettingsHolder.get` asks for the settings.
-/

namespace MediaQuery

/-- The settings that a process keeps, if there are any, with the number of loads before theirs. -/
structure SettingsHolder where
  kept : Option (Nat × Settings)
  deriving Repr

namespace SettingsHolder

/-- The holder at the start. -/
def empty : SettingsHolder := ⟨none⟩

/-- Whether asking for settings loads them. -/
def loads (h : SettingsHolder) (reload : Bool) : Bool := h.kept.isNone || reload

/-- The number of the next settings. -/
def nextNumber (h : SettingsHolder) : Nat :=
  match h.kept with
  | some (n, _) => n + 1
  | none => 0

/-- Asks for the settings, and loads them if there are none or `reload` is given. -/
def get (h : SettingsHolder) (files : Files) (vars : Variables) (path : Option String)
    (reload : Bool) (read : Yaml.Reader := Yaml.read) :
    Except SettingsError (Nat × Settings) × SettingsHolder :=
  match h.kept, reload with
  | some kept, false => (.ok kept, h)
  | _, _ =>
    match Settings.load files vars path read with
    | .ok s => (.ok (h.nextNumber, s), ⟨some (h.nextNumber, s)⟩)
    | .error e => (.error e, h)

end SettingsHolder

end MediaQuery
